import DownloadSite.Page.Download
import DownloadSite.Settings.Resolved

/-!
# The site

The site of a release: its page, in the site's own chrome, with links to the hosting site.
-/

namespace DownloadSite

/-- What the page of a site depends on. -/
structure Site where
  version : String
  chrome : Chrome
  hosting : Hosting

namespace Site

def ofResolved (settings : Resolved) : Site where
  version := settings.version
  chrome := Chrome.site settings.siteName
  hosting := { siteBase := settings.siteBase, pageExtension := settings.pageExtension }

def page (site : Site) : String :=
  Html.render (DownloadPage.document site.version site.chrome site.hosting.links)

end Site

end DownloadSite
