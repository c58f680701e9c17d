import LayeredSite.Config.Basic

namespace LayeredSite

def tomlString (s : String) : String :=
  "\"" ++ String.join (s.toList.map fun c =>
    if c = '"' then "\\\"" else if c = '\\' then "\\\\" else String.singleton c) ++ "\""

def tomlBool (b : Bool) : String := if b then "true" else "false"

def tomlLine (name value : String) : String := name ++ " = " ++ value ++ "\n"

def tomlOption (name : String) : Option String → String
  | none => ""
  | some value => tomlLine name (tomlString value)

def BaseSettings.text (s : BaseSettings) : String :=
  "[base]\n" ++ tomlLine "title" (tomlString s.title) ++
    tomlLine "description" (tomlString s.description) ++ tomlLine "author" (tomlString s.author) ++
    tomlLine "email" (tomlString s.email) ++ tomlOption "url" s.url ++
    tomlLine "language" (tomlString s.language)

def BuildSettings.text (s : BuildSettings) : String :=
  "[build]\n" ++ tomlOption "root" s.root ++ tomlLine "templates" (tomlString s.templates) ++
    tomlLine "layouts" (tomlString s.layouts) ++ tomlLine "posts" (tomlString s.posts) ++
    tomlLine "output" (tomlString s.output) ++ tomlLine "extension" (tomlString s.extension) ++
    tomlLine "post_url" (tomlString s.postUrl) ++ tomlLine "tag_layout" (tomlString s.tagLayout) ++
    tomlLine "tag_url" (tomlString s.tagUrl) ++ tomlLine "minify" (tomlBool s.minify) ++
    tomlLine "markdown" (tomlBool s.markdown) ++ tomlLine "clean" (tomlBool s.clean)

def SiteConfig.starterText : String :=
  ({} : BaseSettings).text ++ "\n" ++ ({} : BuildSettings).text ++ "\n[extra]\n"

end LayeredSite
