import LayeredSite.Template.Error

namespace LayeredSite

inductive ConfigError
  | unreadable (path : String)
  | malformed
  | badExtension
  | badPostUrl
  | badTagUrl
  | badBaseUrl
  | noTemplates (path : String)
  | alreadyThere
  | notThere
  /-- There is no file where the command line says. -/
  | missing (path : String)
deriving DecidableEq, Repr

def invalidSetting (what : String) : String := "Config validation error: " ++ what

def ConfigError.message : ConfigError → String
  | unreadable path => "IO error when reading " ++ quoted path
  | malformed => "Config file parsing error"
  | badExtension => invalidSetting "[build.extension] must be a non-empty extension without a dot"
  | badPostUrl => invalidSetting "[build.post_url] must contain `\x7bslug\x7d`"
  | badTagUrl => invalidSetting "[build.tag_url] must contain `\x7btag\x7d`"
  | badBaseUrl => invalidSetting "[base.url] must start with http:// or https://"
  | noTemplates path =>
    invalidSetting ("[build.templates] " ++ quoted path ++ " is not a directory")
  | alreadyThere => "Config file already exists. Remove it manually or init in a different path."
  | notThere => "Config file not found."
  | missing path => "Config file not found: " ++ path

end LayeredSite
