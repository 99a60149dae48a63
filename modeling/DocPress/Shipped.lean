/-!
# The templates that come with the program

* `packagePage` — the page of a package or command; `examplesPage` — one example on it.
* `packageText` — the same as plain text.

Specification: section 10.5, `package.html`, `package.txt` and `examples.html`.
-/

namespace DocPress.Shipped

/-- Lines, each with its end. -/
def ofLines (lines : List String) : String :=
  String.ofList (lines.flatMap fun line => line.toList ++ ['\n'])

/-- The page of a package or command. -/
def packagePage : String := ofLines [
  "<!DOCTYPE html>",
  "<html lang=\"en\">",
  "<head>",
  "<meta charset=\"utf-8\">",
  "<title>\x7b% if data.is_cmd %\x7d\x7b\x7b commandName(data) \x7d\x7d\x7b% else %\x7d\x7b\x7b data.name \x7d\x7d\x7b% endif %\x7d - \x7b\x7b data.import_path \x7d\x7d</title>",
  "</head>",
  "<body>",
  "<nav class=\"breadcrumbs\">\x7b\x7b breadcrumbs(data) \x7d\x7d</nav>",
  "<h1>\x7b% if data.is_cmd %\x7dCommand \x7b\x7b commandName(data) \x7d\x7d\x7b% else %\x7dPackage \x7b\x7b data.name \x7d\x7d\x7b% endif %\x7d</h1>",
  "<p class=\"import-path\"><code>import \"\x7b\x7b importPath(data.import_path) \x7d\x7d\"</code></p>",
  "\x7b%- if data.updated %\x7d",
  "<p class=\"updated\">Updated \x7b\x7b relativeTime(data.updated) \x7d\x7d</p>",
  "\x7b%- endif %\x7d",
  "\x7b%- if data.browse_url %\x7d",
  "<p class=\"source\"><a href=\"\x7b\x7b data.browse_url \x7d\x7d\">Browse source</a></p>",
  "\x7b%- endif %\x7d",
  "",
  "<section id=\"pkg-overview\">",
  "\x7b\x7b comment(data.doc) \x7d\x7d",
  "</section>",
  "\x7b%- if not data.is_cmd %\x7d",
  "",
  "<section id=\"pkg-index\">",
  "<h2>Index</h2>",
  "<ul>",
  "\x7b%- for func in data.funcs %\x7d",
  "<li><a href=\"#\x7b\x7b url(func.name) \x7d\x7d\">func \x7b\x7b func.name \x7d\x7d</a></li>",
  "\x7b%- endfor %\x7d",
  "\x7b%- for type in data.types %\x7d",
  "<li><a href=\"#\x7b\x7b url(type.name) \x7d\x7d\">type \x7b\x7b type.name \x7d\x7d</a></li>",
  "\x7b%- endfor %\x7d",
  "</ul>",
  "</section>",
  "\x7b%- for group in [map(\"id\", \"pkg-constants\", \"title\", \"Constants\", \"values\", data.consts), map(\"id\", \"pkg-variables\", \"title\", \"Variables\", \"values\", data.vars)] %\x7d",
  "\x7b%- if group.values %\x7d",
  "",
  "<section id=\"\x7b\x7b group.id \x7d\x7d\">",
  "<h2>\x7b\x7b group.title \x7d\x7d</h2>",
  "\x7b%- for value in group.values %\x7d",
  "<pre>\x7b\x7b decl(value.decl) \x7d\x7d</pre>",
  "\x7b\x7b comment(value.doc) \x7d\x7d",
  "\x7b%- endfor %\x7d",
  "</section>",
  "\x7b%- endif %\x7d",
  "\x7b%- endfor %\x7d",
  "\x7b%- for func in data.funcs %\x7d",
  "",
  "<section id=\"\x7b\x7b url(func.name) \x7d\x7d\">",
  "<h2>func \x7b\x7b func.name \x7d\x7d\x7b% if func.url %\x7d <a class=\"source\" href=\"\x7b\x7b func.url \x7d\x7d\">source</a>\x7b% endif %\x7d</h2>",
  "<pre>\x7b\x7b decl(func.decl) \x7d\x7d</pre>",
  "\x7b\x7b comment(func.doc) \x7d\x7d",
  "</section>",
  "\x7b%- endfor %\x7d",
  "\x7b%- for type in data.types %\x7d",
  "",
  "<section id=\"\x7b\x7b url(type.name) \x7d\x7d\">",
  "<h2>type \x7b\x7b type.name \x7d\x7d</h2>",
  "<pre>\x7b\x7b decl(type.decl) \x7d\x7d</pre>",
  "\x7b\x7b comment(type.doc) \x7d\x7d",
  "\x7b%- for values in [type.consts, type.vars] %\x7d",
  "\x7b%- for value in values %\x7d",
  "<pre>\x7b\x7b decl(value.decl) \x7d\x7d</pre>",
  "\x7b\x7b comment(value.doc) \x7d\x7d",
  "\x7b%- endfor %\x7d",
  "\x7b%- endfor %\x7d",
  "\x7b%- for funcs in [type.funcs, type.methods] %\x7d",
  "\x7b%- for func in funcs %\x7d",
  "",
  "<h3 id=\"\x7b% if func.recv %\x7d\x7b\x7b url(type.name ~ \".\" ~ func.name) \x7d\x7d\x7b% else %\x7d\x7b\x7b url(func.name) \x7d\x7d\x7b% endif %\x7d\">func \x7b% if func.recv %\x7d(\x7b\x7b func.recv \x7d\x7d) \x7b% endif %\x7d\x7b\x7b func.name \x7d\x7d</h3>",
  "<pre>\x7b\x7b decl(func.decl) \x7d\x7d</pre>",
  "\x7b\x7b comment(func.doc) \x7d\x7d",
  "\x7b%- endfor %\x7d",
  "\x7b%- endfor %\x7d",
  "</section>",
  "\x7b%- endfor %\x7d",
  "\x7b%- set all_examples = examples(data) %\x7d",
  "\x7b%- if all_examples %\x7d",
  "",
  "<section id=\"pkg-examples\">",
  "<h2>Examples</h2>",
  "\x7b%- for ex in all_examples %\x7d",
  "\x7b% include \"examples.html\" %\x7d",
  "\x7b%- endfor %\x7d",
  "</section>",
  "\x7b%- endif %\x7d",
  "\x7b%- endif %\x7d",
  "\x7b%- if data.imports %\x7d",
  "",
  "<section id=\"pkg-imports\">",
  "<h2>Imports</h2>",
  "<ul>",
  "\x7b%- for path in data.imports %\x7d",
  "<li><a href=\"\x7b\x7b url(\"/\" ~ path) \x7d\x7d\">\x7b\x7b relativePath(path, data.project_root) \x7d\x7d</a></li>",
  "\x7b%- endfor %\x7d",
  "</ul>",
  "</section>",
  "\x7b%- endif %\x7d",
  "\x7b%- if data.errors %\x7d",
  "",
  "<section id=\"pkg-errors\">",
  "<h2>Errors</h2>",
  "<ul>",
  "\x7b%- for err in data.errors %\x7d",
  "<li>\x7b\x7b err \x7d\x7d</li>",
  "\x7b%- endfor %\x7d",
  "</ul>",
  "</section>",
  "\x7b%- endif %\x7d",
  "</body>",
  "</html>"]

/-- One example on the page of a package. -/
def examplesPage : String := ofLines [
  "<div class=\"example\" id=\"\x7b\x7b exampleId(ex.owner, ex.example) \x7d\x7d\">",
  "<h3>",
  "\x7b%- if isPackage(ex.owner) %\x7dPackage\x7b% elif isType(ex.owner) %\x7d\x7b\x7b ex.owner.name \x7d\x7d\x7b% elif isFunc(ex.owner) %\x7d\x7b% if ex.owner.recv %\x7d\x7b\x7b ex.owner.recv \x7d\x7d.\x7b% endif %\x7d\x7b\x7b ex.owner.name \x7d\x7d\x7b% endif %\x7d",
  "\x7b%- if ex.example.name %\x7d (\x7b\x7b ex.example.name \x7d\x7d)\x7b% endif %\x7d</h3>",
  "\x7b\x7b comment(ex.example.doc) \x7d\x7d",
  "<pre class=\"code\">\x7b\x7b ex.example.code \x7d\x7d</pre>",
  "\x7b%- if not equal(ex.example.output, \"\") %\x7d",
  "<p>Output:</p>",
  "<pre class=\"output\">\x7b\x7b ex.example.output \x7d\x7d</pre>",
  "\x7b%- endif %\x7d",
  "</div>"]

/-- A package or command as plain text. -/
def packageText : String := ofLines [
  "\x7b% if data.is_cmd %\x7dCOMMAND DOCUMENTATION\x7b% else %\x7dPACKAGE DOCUMENTATION\x7b% endif %\x7d",
  "",
  "\x7b% if data.is_cmd %\x7dCOMMAND \x7b\x7b commandName(data) \x7d\x7d\x7b% else %\x7dpackage \x7b\x7b data.name \x7d\x7d\x7b% endif %\x7d",
  "    import \"\x7b\x7b data.import_path \x7d\x7d\"",
  "",
  "\x7b\x7b commentText(data.doc) \x7d\x7d",
  "\x7b%- if not data.is_cmd %\x7d",
  "\x7b%- if data.consts %\x7d",
  "",
  "CONSTANTS",
  "\x7b% for value in data.consts %\x7d",
  "\x7b\x7b value.decl.text \x7d\x7d",
  "\x7b\x7b commentText(value.doc) \x7d\x7d",
  "\x7b%- endfor %\x7d",
  "\x7b%- endif %\x7d",
  "\x7b%- if data.vars %\x7d",
  "",
  "VARIABLES",
  "\x7b% for value in data.vars %\x7d",
  "\x7b\x7b value.decl.text \x7d\x7d",
  "\x7b\x7b commentText(value.doc) \x7d\x7d",
  "\x7b%- endfor %\x7d",
  "\x7b%- endif %\x7d",
  "\x7b%- if data.funcs %\x7d",
  "",
  "FUNCTIONS",
  "\x7b% for func in data.funcs %\x7d",
  "\x7b\x7b func.decl.text \x7d\x7d",
  "\x7b\x7b commentText(func.doc) \x7d\x7d",
  "\x7b%- endfor %\x7d",
  "\x7b%- endif %\x7d",
  "\x7b%- if data.types %\x7d",
  "",
  "TYPES",
  "\x7b% for type in data.types %\x7d",
  "\x7b\x7b type.decl.text \x7d\x7d",
  "\x7b\x7b commentText(type.doc) \x7d\x7d",
  "\x7b%- for funcs in [type.funcs, type.methods] %\x7d",
  "\x7b%- for func in funcs %\x7d",
  "\x7b\x7b func.decl.text \x7d\x7d",
  "\x7b\x7b commentText(func.doc) \x7d\x7d",
  "\x7b%- endfor %\x7d",
  "\x7b%- endfor %\x7d",
  "\x7b%- endfor %\x7d",
  "\x7b%- endif %\x7d",
  "\x7b%- endif %\x7d"]

/-- The templates by name. -/
def templates : List (String × String) :=
  [("examples.html", examplesPage), ("package.html", packagePage), ("package.txt", packageText)]

end DocPress.Shipped
