import CodeHighlight.Theme.Basic

/-! # Themes that come with the library

A dark and a light theme, each also with high contrast.
-/
namespace CodeHighlight.Theme

private def solid (color : String) : Style := .color color

private def fg (color : String) : Style := .channels (some color) none

private def bg (color : String) : Style := .channels none (some color)

private def both (foreground background : String) : Style :=
  .channels (some foreground) (some background)

def githubDark : Theme where
  id := "github-dark"
  name := some "GitHub Dark"
  styles := Catalog.ofList [
    ("ui.background", bg "#0d1117"),
    ("ui.foreground", fg "#e6edf3"),
    ("attribute", solid "#79c0ff"),
    ("boolean", solid "#79c0ff"),
    ("comment", fg "#8b949e"),
    ("constant", solid "#79c0ff"),
    ("constant.builtin", solid "#79c0ff"),
    ("constant.character.escape", solid "#79c0ff"),
    ("constant.numeric", solid "#79c0ff"),
    ("constructor", solid "#d2a8ff"),
    ("embedded", solid "#e6edf3"),
    ("escape", solid "#79c0ff"),
    ("function", solid "#d2a8ff"),
    ("function.builtin", solid "#d2a8ff"),
    ("function.macro", solid "#d2a8ff"),
    ("function.method", solid "#d2a8ff"),
    ("keyword", solid "#ff7b72"),
    ("keyword.directive", solid "#ff7b72"),
    ("label", solid "#ff7b72"),
    ("module", solid "#ffa657"),
    ("namespace", solid "#ffa657"),
    ("number", solid "#79c0ff"),
    ("operator", solid "#ff7b72"),
    ("property", solid "#79c0ff"),
    ("punctuation", solid "#e6edf3"),
    ("punctuation.bracket", solid "#e6edf3"),
    ("punctuation.delimiter", solid "#e6edf3"),
    ("punctuation.special", solid "#ff7b72"),
    ("string", solid "#a5d6ff"),
    ("string.escape", solid "#79c0ff"),
    ("string.special", solid "#a5d6ff"),
    ("tag", solid "#7ee787"),
    ("tag.attribute", solid "#79c0ff"),
    ("type", solid "#ffa657"),
    ("type.builtin", solid "#ffa657"),
    ("variable", solid "#e6edf3"),
    ("variable.builtin", solid "#79c0ff"),
    ("variable.parameter", solid "#ffa657"),
    ("markup.heading", fg "#79c0ff"),
    ("markup.link.text", fg "#a5d6ff"),
    ("markup.raw", fg "#79c0ff"),
    ("diff.plus", both "#3fb950" "#12261e"),
    ("diff.minus", both "#f85149" "#25171c"),
    ("diff.delta", fg "#d29922"),
    ("error", fg "#f85149"),
    ("warning", fg "#d29922")]

def githubLight : Theme where
  id := "github-light"
  name := some "GitHub Light"
  styles := Catalog.ofList [
    ("ui.background", bg "#ffffff"),
    ("ui.foreground", fg "#1f2328"),
    ("attribute", solid "#0550ae"),
    ("boolean", solid "#0550ae"),
    ("comment", fg "#6e7781"),
    ("constant", solid "#0550ae"),
    ("constant.builtin", solid "#0550ae"),
    ("constant.character.escape", solid "#0550ae"),
    ("constant.numeric", solid "#0550ae"),
    ("constructor", solid "#8250df"),
    ("embedded", solid "#1f2328"),
    ("escape", solid "#0550ae"),
    ("function", solid "#8250df"),
    ("function.builtin", solid "#8250df"),
    ("function.macro", solid "#8250df"),
    ("function.method", solid "#8250df"),
    ("keyword", solid "#cf222e"),
    ("keyword.directive", solid "#cf222e"),
    ("label", solid "#cf222e"),
    ("module", solid "#953800"),
    ("namespace", solid "#953800"),
    ("number", solid "#0550ae"),
    ("operator", solid "#cf222e"),
    ("property", solid "#0550ae"),
    ("punctuation", solid "#1f2328"),
    ("punctuation.bracket", solid "#1f2328"),
    ("punctuation.delimiter", solid "#1f2328"),
    ("punctuation.special", solid "#cf222e"),
    ("string", solid "#0a3069"),
    ("string.escape", solid "#0550ae"),
    ("string.special", solid "#0a3069"),
    ("tag", solid "#116329"),
    ("tag.attribute", solid "#0550ae"),
    ("type", solid "#953800"),
    ("type.builtin", solid "#953800"),
    ("variable", solid "#1f2328"),
    ("variable.builtin", solid "#0550ae"),
    ("variable.parameter", solid "#953800"),
    ("markup.heading", fg "#0550ae"),
    ("markup.link.text", fg "#0a3069"),
    ("markup.raw", fg "#0550ae"),
    ("diff.plus", both "#116329" "#dafbe1"),
    ("diff.minus", both "#82071e" "#ffebe9"),
    ("diff.delta", fg "#953800"),
    ("error", fg "#cf222e"),
    ("warning", fg "#9a6700")]

def githubDarkHighContrast : Theme where
  id := "github-dark-high-contrast"
  name := some "GitHub Dark High Contrast"
  styles := Catalog.ofList [
    ("attribute", fg "#c9d1d9"),
    ("keyword", fg "#ff7b72"),
    ("keyword.directive", fg "#ff7b72"),
    ("namespace", fg "#ffa657"),
    ("punctuation", fg "#c9d1d9"),
    ("punctuation.delimiter", fg "#c9d1d9"),
    ("operator", fg "#a5d6ff"),
    ("special", fg "#a5d6ff"),
    ("variable.other.member", fg "#a5d6ff"),
    ("variable", fg "#c9d1d9"),
    ("variable.parameter", fg "#ffa657"),
    ("variable.builtin", fg "#ff7b72"),
    ("type", fg "#ffa657"),
    ("type.builtin", fg "#79c0ff"),
    ("constructor", fg "#d2a8ff"),
    ("function", fg "#d2a8ff"),
    ("function.macro", fg "#d2a8ff"),
    ("tag", fg "#7ee787"),
    ("comment", fg "#8b949e"),
    ("constant", fg "#79c0ff"),
    ("constant.builtin", fg "#79c0ff"),
    ("string", fg "#a5d6ff"),
    ("constant.numeric", fg "#79c0ff"),
    ("constant.character.escape", fg "#79c0ff"),
    ("label", fg "#ff7b72"),
    ("markup.heading", fg "#79c0ff"),
    ("markup.link.text", fg "#a5d6ff"),
    ("markup.raw", fg "#79c0ff"),
    ("diff.plus", fg "#3fb950"),
    ("diff.minus", fg "#f85149"),
    ("diff.delta", fg "#d29922"),
    ("ui.background", bg "#0d1117"),
    ("ui.background.separator", fg "#6e7681"),
    ("ui.linenr", fg "#6e7681"),
    ("ui.linenr.selected", fg "#c9d1d9"),
    ("ui.statusline", both "#8b949e" "#21262d"),
    ("ui.statusline.active", both "#c9d1d9" "#0d1117"),
    ("ui.statusline.normal", both "#c9d1d9" "#388bfd66"),
    ("ui.statusline.insert", both "#c9d1d9" "#bb800966"),
    ("ui.statusline.select", both "#c9d1d9" "#db61a266"),
    ("ui.popup", bg "#161b22"),
    ("ui.popup.info", both "#c9d1d9" "#161b22"),
    ("ui.window", fg "#30363d"),
    ("ui.help", both "#c9d1d9" "#161b22"),
    ("ui.text", fg "#8b949e"),
    ("ui.text.focus", fg "#c9d1d9"),
    ("ui.text.inactive", fg "#6e7681"),
    ("ui.virtual", fg "#30363d"),
    ("ui.selection", bg "#0c2d6b"),
    ("ui.selection.primary", bg "#0d419d"),
    ("ui.cursor.match", fg "#d29922"),
    ("ui.cursorline.primary", bg "#161b22"),
    ("ui.menu", both "#c9d1d9" "#161b22"),
    ("ui.menu.selected", bg "#6e7681"),
    ("ui.menu.scroll", both "#484f58" "#161b22"),
    ("hint", fg "#3fb950"),
    ("info", fg "#58a6ff"),
    ("warning", fg "#d29922"),
    ("error", fg "#f85149"),
    ("ui.foreground", fg "#c9d1d9")]

def githubLightHighContrast : Theme where
  id := "github-light-high-contrast"
  name := some "GitHub Light High Contrast"
  styles := Catalog.ofList [
    ("attribute", fg "#24292f"),
    ("keyword", fg "#cf222e"),
    ("keyword.directive", fg "#cf222e"),
    ("namespace", fg "#953800"),
    ("punctuation", fg "#24292f"),
    ("punctuation.delimiter", fg "#24292f"),
    ("operator", fg "#0a3069"),
    ("special", fg "#0a3069"),
    ("variable.other.member", fg "#0a3069"),
    ("variable", fg "#24292f"),
    ("variable.parameter", fg "#953800"),
    ("variable.builtin", fg "#cf222e"),
    ("type", fg "#953800"),
    ("type.builtin", fg "#0550ae"),
    ("constructor", fg "#8250df"),
    ("function", fg "#8250df"),
    ("function.macro", fg "#8250df"),
    ("tag", fg "#116329"),
    ("comment", fg "#57606a"),
    ("constant", fg "#0550ae"),
    ("constant.builtin", fg "#0550ae"),
    ("string", fg "#0a3069"),
    ("constant.numeric", fg "#0550ae"),
    ("constant.character.escape", fg "#0550ae"),
    ("label", fg "#cf222e"),
    ("markup.heading", fg "#0550ae"),
    ("markup.link.text", fg "#0a3069"),
    ("markup.raw", fg "#0550ae"),
    ("diff.plus", fg "#1a7f37"),
    ("diff.minus", fg "#cf222e"),
    ("diff.delta", fg "#9a6700"),
    ("ui.background", bg "#ffffff"),
    ("ui.background.separator", fg "#6e7781"),
    ("ui.linenr", fg "#6e7781"),
    ("ui.linenr.selected", fg "#24292f"),
    ("ui.statusline", both "#57606a" "#eaeef280"),
    ("ui.statusline.active", both "#24292f" "#ffffff"),
    ("ui.statusline.normal", both "#24292f" "#54aeff66"),
    ("ui.statusline.insert", both "#24292f" "#d4a72c66"),
    ("ui.statusline.select", both "#24292f" "#ff80c866"),
    ("ui.popup", bg "#f6f8fa"),
    ("ui.popup.info", both "#24292f" "#f6f8fa"),
    ("ui.window", fg "#d0d7de"),
    ("ui.help", both "#24292f" "#f6f8fa"),
    ("ui.text", fg "#57606a"),
    ("ui.text.focus", fg "#24292f"),
    ("ui.text.inactive", fg "#6e7781"),
    ("ui.virtual", fg "#d0d7de"),
    ("ui.selection", bg "#ddf4ff"),
    ("ui.selection.primary", bg "#b6e3ff"),
    ("ui.cursor.match", fg "#9a6700"),
    ("ui.cursorline.primary", bg "#f6f8fa"),
    ("ui.menu", both "#24292f" "#f6f8fa"),
    ("ui.menu.selected", bg "#eaeef2"),
    ("ui.menu.scroll", both "#d0d7de" "#f6f8fa"),
    ("hint", fg "#1a7f37"),
    ("info", fg "#0969da"),
    ("warning", fg "#9a6700"),
    ("error", fg "#cf222e"),
    ("ui.foreground", fg "#24292f")]

/-- In the order in which they are registered. -/
def builtins : List Theme :=
  [githubDark, githubLight, githubDarkHighContrast, githubLightHighContrast]

end CodeHighlight.Theme
