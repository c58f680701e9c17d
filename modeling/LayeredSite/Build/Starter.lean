import LayeredSite.Build.Output
import LayeredSite.Config.Text
import LayeredSite.Date.Text
import LayeredSite.Log.Line

namespace LayeredSite

inductive StarterError
  | notEmpty
  | alreadyThere (path : String)
  | output (error : BuildError)
  | disk (fault : Disk.Fault)

def StarterError.message : StarterError → String
  | notEmpty => "Current directory is not empty. Use " ++ quoted "kasane init <SITE_NAME>" ++
    " to create in a subdirectory."
  | alreadyThere path => "Path " ++ quoted path ++ " already exists. Try " ++
    quoted "kasane init <SITE_NAME>" ++ " instead."
  | output error => error.message
  | disk fault => fault.message

def StarterError.cause? : StarterError → Option String
  | output error => error.cause?
  | _ => none

namespace Starter

def lines (texts : List String) : String := String.join (texts.map (· ++ "\n"))

def defaultLayout : String := lines [
  ";format:html5",
  "[:html \x7b:lang (:language (:base site))\x7d",
  "  [:head",
  "    [:meta \x7b:charset \"utf-8\"\x7d]",
  "    [:title (:title site (:title (:base site)))]]",
  "  [:body",
  "    [:header [:a \x7b:href \"/\"\x7d (:title (:base site))]]",
  "    [:main content]]]"]

def postLayout : String := lines [
  ";layout:default",
  "[:article",
  "  [:h1 (:title site)]",
  "  [:time (:date site)]",
  "  content]"]

def tagLayout : String := lines [
  ";layout:default",
  "[:h1 \"Tagged \" (:tag-name site)]",
  "[:ul",
  "  (for [post (:posts site)]",
  "    [:li [:a \x7b:href (:url post)\x7d (:title post)]])]"]

def index : String := lines [
  ";layout:default",
  "[:ul.posts",
  "  (for [post (:posts site)]",
  "    [:li [:a \x7b:href (:url post)\x7d (:title post)] \" \" (:date post)])]",
  "[:ul.tags",
  "  (for [tag (:tags site)]",
  "    [:li [:a \x7b:href (:url tag)\x7d (:name tag) \" (\" (:count tag) \")\"]])]"]

def feed : String := lines [
  "(raw \"<?xml version=\\\"1.0\\\" encoding=\\\"utf-8\\\"?>\")",
  "[:feed \x7b:xmlns \"http://www.w3.org/2005/Atom\"\x7d",
  "  [:title (:title (:base site))]",
  "  [:updated (:date site)]",
  "  (for [post (take 10 (:posts site))]",
  "    [:entry",
  "      [:title (:title post)]",
  "      [:link \x7b:href (:url post)\x7d]",
  "      [:updated (:date post)]",
  "      [:content \x7b:type \"html\"\x7d (:content post)]])]"]

def firstPost : String := lines [
  ";layout:post",
  ";title:Hello",
  ";tag:meta",
  "[:markdown \"Welcome! Edit this post under `template/_posts`.\"]"]

/-- The files of a new site, in the order in which they are written. -/
def files (config : SiteConfig) (today : Date) : List (String × String) :=
  let file (dir name : String) := Path.join dir (name ++ "." ++ config.build.extension)
  [(config.configPath, SiteConfig.starterText),
    (file config.layoutsDir "default", defaultLayout),
    (file config.layoutsDir "post", postLayout),
    (file config.layoutsDir config.build.tagLayout, tagLayout),
    (file config.build.templates "index.html", index),
    (file config.build.templates "atom.xml", feed),
    (file config.postsDir (today.format ++ "-hello"), firstPost)]

/-- The lists of files that other programs pass over; they name the output directory. -/
def ignoreFiles : List String := [".gitignore", ".ignore"]

def isEmptyDir (disk : Disk) (path : String) : Except StarterError Bool :=
  match disk.node path with
  | .ok (.dir entries) => .ok entries.isEmpty
  | .ok (.file _ _) => .error (.disk .notDirectory)
  | .error _ => .ok true

def writeFile (now : Int) (disk : Disk) (file : String × String) :
    Except StarterError Unit × Disk :=
  let (r, d) := Output.put disk file.1 file.2 now
  (r.mapError .output, d)

def writeIgnore (config : SiteConfig) (now : Int) (disk : Disk) (name : String) :
    Except StarterError Unit × Disk :=
  let path := Path.join config.root name
  if disk.exists_ path then (.ok (), disk)
  else match disk.write path ((Path.fileName? config.build.output).getD "") now with
    | .ok d => (.ok (), d)
    | .error fault => (.error (.disk fault), disk)

/-- Why a site may not be made; one without a name needs an empty directory. -/
def refuse (config : SiteConfig) (named : Bool) (disk : Disk) : Except StarterError Unit := do
  if !named then
    if !(← isEmptyDir disk config.root) then throw .notEmpty
  if disk.exists_ config.build.templates then throw (.alreadyThere config.build.templates)

/-- Takes steps up to the first that fails; the disk stays as that one leaves it. -/
def runSteps (disk : Disk) : List (Disk → Except StarterError Unit × Disk) →
    Except StarterError Unit × Disk
  | [] => (.ok (), disk)
  | step :: rest => match step disk with
    | (.ok (), d) => runSteps d rest
    | (.error e, d) => (.error e, d)

def make (config : SiteConfig) (named : Bool) (clock : Clock) (disk : Disk) :
    Except StarterError Unit × Disk :=
  match refuse config named disk with
  | .error e => (.error e, disk)
  | .ok () => runSteps disk <|
    (files config clock.today).map (fun file d => writeFile clock.now d file) ++
      ignoreFiles.map fun name d => writeIgnore config clock.now d name

def createdLine (config : SiteConfig) : LogLine := ⟨"init", "created site at " ++ config.root⟩

end Starter
end LayeredSite
