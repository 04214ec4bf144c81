import AngularScaffold.Files.Path
import AngularScaffold.Manifest.Schema
import AngularScaffold.Manifest.Validate

namespace AngularScaffold.Manifest

open Document

def formatOf (fileName : String) : Format :=
  match Files.extension? fileName with
  | some extension => if Naming.sameIgnoringCase extension.toList "json".toList then .json else .toml
  | none => .toml

def read (fileName source : String) : Except Error Manifest := do
  let f := formatOf fileName
  let m ← (decodeText f ((schema f).decode f) source).mapError .refused
  validate source m
  pure m

def starter : String :=
  "[project]
name = \"my-app\"

[symbols]
provideRouter = \"@angular/router\"

[components.AppComponent]
selector = \"app-root\"
standalone = true
templateUrl = \"./app.component.html\"
styleUrls = [\"./app.component.css\"]
changeDetection = \"OnPush\"

[components.HomeComponent]
selector = \"app-home\"
standalone = true
template = \"<h1>Home</h1>\"

[application]
providers = [\"provideRouter(routes)\"]

[[routes]]
path = \"\"
component = \"HomeComponent\"
"

end AngularScaffold.Manifest
