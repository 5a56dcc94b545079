/-!
# The bundled stylesheet

The stylesheet of the site as a list of rules, and its text.
-/

namespace DownloadSite.Stylesheet

/-- A rule: its selectors and its declarations of properties. -/
structure Rule where
  selectors : List String
  declarations : List (String × String)
  deriving DecidableEq, Repr

/-- The text of a rule, one selector and one declaration on each line. -/
def Rule.text (rule : Rule) : String :=
  ",\n".intercalate rule.selectors ++ " \x7b\n"
    ++ String.join (rule.declarations.map fun (property, value) =>
      "    " ++ property ++ ": " ++ value ++ ";\n")
    ++ "\x7d\n"

def rules : List Rule :=
  [{ selectors := [":root"]
     declarations :=
      [("--fg", "#1f2328"), ("--muted", "#59636e"), ("--accent", "#0969da"), ("--bg", "#ffffff"),
       ("--panel", "#f6f8fa"), ("--border", "#d1d9e0")] },
   { selectors := ["body"]
     declarations :=
      [("margin", "0"),
       ("font-family",
        "-apple-system, BlinkMacSystemFont, \"Segoe UI\", Helvetica, Arial, sans-serif"),
       ("line-height", "1.5"), ("color", "var(--fg)"), ("background", "var(--bg)")] },
   { selectors := ["a"]
     declarations := [("color", "var(--accent)"), ("text-decoration", "none")] },
   { selectors := ["a:hover"]
     declarations := [("text-decoration", "underline")] },
   { selectors := [".site-header"]
     declarations :=
      [("padding", "1rem 2rem"), ("border-bottom", "1px solid var(--border)"),
       ("background", "var(--panel)")] },
   { selectors := [".site-title"]
     declarations := [("font-size", "1.75rem"), ("font-weight", "600")] },
   { selectors := [".site-subtitle"]
     declarations := [("color", "var(--muted)")] },
   { selectors := [".site-nav"]
     declarations := [("margin-top", "0.5rem"), ("font-size", "0.875rem")] },
   { selectors := [".nav-current"]
     declarations := [("font-weight", "600")] },
   { selectors := [".container"]
     declarations := [("max-width", "960px"), ("margin", "0 auto"), ("padding", "1rem 2rem")] },
   { selectors := [".container h1"]
     declarations :=
      [("font-size", "1.5rem"), ("border-bottom", "1px solid var(--border)"),
       ("padding-bottom", "0.3rem")] },
   { selectors := ["pre"]
     declarations :=
      [("padding", "0.75rem 1rem"), ("background", "var(--panel)"),
       ("border", "1px solid var(--border)"), ("border-radius", "6px"), ("overflow-x", "auto")] },
   { selectors := ["code", "pre"]
     declarations :=
      [("font-family", "ui-monospace, SFMono-Regular, Menlo, Consolas, monospace")] },
   { selectors := [".site-footer"]
     declarations :=
      [("padding", "1rem 2rem"), ("border-top", "1px solid var(--border)"),
       ("color", "var(--muted)"), ("font-size", "0.875rem"), ("text-align", "center")] }]

/-- The text of the stylesheet, an empty line between its rules. -/
def text : String := "\n".intercalate (rules.map Rule.text)

end DownloadSite.Stylesheet
