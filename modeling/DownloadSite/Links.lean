/-!
# Links out of the page

The page leads to other parts of the project: pages of the hosting site, and sibling pages of its own
site. The surrounding site decides what such a target's address is, so the page only names targets,
and `Links` says where they lie.
-/

namespace DownloadSite

/-- What a page may lead to. -/
inductive Target where
  /-- A page of the hosting site, such as `cvs/`. -/
  | hosted (path : String)
  /-- A sibling page, such as `links`. -/
  | sibling (page : String)
  deriving DecidableEq, Repr

abbrev Links := Target → String

/-- Joins two parts of an address with exactly one slash, whatever slashes they end or begin with. -/
def joinUrl (base path : String) : String :=
  let trimmed := (base.toList.reverse.dropWhile (· = '/')).reverse
  String.ofList (trimmed ++ '/' :: path.toList.dropWhile (· = '/'))

/-- A project on a hosting site, with its own pages side by side in one directory. -/
structure Hosting where
  /-- The address of the project on the hosting site. -/
  siteBase : String := "https://sourceforge.net/projects/jode"
  /-- What the file names of sibling pages end with. -/
  pageExtension : String := ".html"
  deriving DecidableEq, Repr

/-- Hosted pages lie below the address of the project, siblings are named relative to the page. -/
def Hosting.links (hosting : Hosting) : Links
  | .hosted path => joinUrl hosting.siteBase path
  | .sibling page => page ++ hosting.pageExtension

end DownloadSite
