import LayeredSite.Proofs.Build.Starting
import LayeredSite.Proofs.Build.Turns
import LayeredSite.Proofs.Disk.Behind
import LayeredSite.Proofs.Disk.Enumeration
import LayeredSite.Proofs.Layouts.Nesting
import LayeredSite.Proofs.Site.Loading

namespace LayeredSite

open LayeredSite.Path

namespace SiteConfig

def ofChars? (cs : List Char) : Option SiteConfig := do
  let cs := match cs with
    | c :: rest => if c.toNat = 0xFEFF then rest else c :: rest
    | [] => []
  let s ← Toml.statements (cs.length + 1) ⟨[], []⟩ cs
  (Toml.Draft.entriesToValue s.root).foldlM (fun c (k, v) => setSection c k v) {}

theorem parse?_eq_ofChars? (text : String) : parse? text = ofChars? text.toList := by
  unfold parse? Toml.parse ofChars?
  refine (bind_assoc _ _ _).trans ?_
  rfl

theorem toList_baseText (s : BaseSettings) : s.text.toList =
    "[base]\n".toList ++ (tomlLine "title" (tomlString s.title)).toList ++
      (tomlLine "description" (tomlString s.description)).toList ++
      (tomlLine "author" (tomlString s.author)).toList ++
      (tomlLine "email" (tomlString s.email)).toList ++ (tomlOption "url" s.url).toList ++
      (tomlLine "language" (tomlString s.language)).toList := by
  unfold BaseSettings.text
  simp only [String.toList_append]

theorem toList_buildText (s : BuildSettings) : s.text.toList =
    "[build]\n".toList ++ (tomlOption "root" s.root).toList ++
      (tomlLine "templates" (tomlString s.templates)).toList ++
      (tomlLine "layouts" (tomlString s.layouts)).toList ++
      (tomlLine "posts" (tomlString s.posts)).toList ++
      (tomlLine "output" (tomlString s.output)).toList ++
      (tomlLine "extension" (tomlString s.extension)).toList ++
      (tomlLine "post_url" (tomlString s.postUrl)).toList ++
      (tomlLine "tag_layout" (tomlString s.tagLayout)).toList ++
      (tomlLine "tag_url" (tomlString s.tagUrl)).toList ++
      (tomlLine "minify" (tomlBool s.minify)).toList ++
      (tomlLine "markdown" (tomlBool s.markdown)).toList ++
      (tomlLine "clean" (tomlBool s.clean)).toList := by
  unfold BuildSettings.text
  simp only [String.toList_append]

theorem parse?_starterText : parse? starterText = some {} := by
  have hparts : (parse? starterText).map (fun c =>
      (c.configPath, c.base, c.build, c.extra.isEmpty)) = some ("", {}, {}, true) := by
    rw [parse?_eq_ofChars?, starterText, String.toList_append, String.toList_append,
      String.toList_append, toList_baseText, toList_buildText]
    decide +kernel
  obtain ⟨⟨configPath, base, build, extra⟩, hparse, hc⟩ := Option.map_eq_some_iff.mp hparts
  obtain ⟨rfl, hc⟩ := Prod.mk.inj hc
  obtain ⟨rfl, hc⟩ := Prod.mk.inj hc
  obtain ⟨rfl, hextra⟩ := Prod.mk.inj hc
  obtain rfl := List.isEmpty_iff.mp hextra
  exact hparse

/-- No line of a document begins with a semicolon or an opening parenthesis. -/
theorem parse?_eq_none_of_head? {text : String} {c : Char}
    (h : text.toList.head? = some c) (hc : c = ';' ∨ c = '(') : parse? text = none := by
  obtain ⟨rest, hrest⟩ := List.head?_eq_some_iff.mp h
  rw [parse?_eq_ofChars?, hrest]
  rcases hc with rfl | rfl <;> rfl

end SiteConfig

namespace Starter

theorem toList_lines (texts : List String) :
    (lines texts).toList = texts.flatMap fun text => text.toList ++ ['\n'] := by
  rw [lines, String.toList_join, List.flatMap_map]
  simp

variable {d e : Disk} {dir path : String}

/-- The templates of a new site, by the names that lead to them, with their texts. -/
def templateFiles (s : BuildSettings) (today : Date) : List (List String × String) :=
  let file (name : String) := name ++ "." ++ s.extension
  [([s.layouts, file "default"], defaultLayout), ([s.layouts, file "post"], postLayout),
    ([s.layouts, file s.tagLayout], tagLayout), ([file "index.html"], index),
    ([file "atom.xml"], feed), ([s.posts, file (today.format ++ "-hello")], firstPost)]

theorem files_eq (config : SiteConfig) (today : Date) :
    files config today = (config.configPath, SiteConfig.starterText) ::
      (templateFiles config.build today).map fun file =>
        (file.1.foldl join config.build.templates, file.2) := by
  simp only [files, templateFiles, SiteConfig.layoutsDir, SiteConfig.postsDir, List.map_cons,
    List.map_nil, List.foldl_cons, List.foldl_nil]

theorem isName_template {stem : String} (hstem : '/' ∉ stem.toList) :
    IsName (stem ++ "." ++ "sx") :=
  isName_file hstem (by decide) (by decide) (by decide)

theorem slash_not_mem_hello (today : Date) : '/' ∉ (today.format ++ "-hello").toList := by
  simp [slash_not_mem_format]

theorem isName_of_mem_templateFiles {file : List String × String} {today : Date}
    (h : file ∈ templateFiles {} today) : ∀ name ∈ file.1, IsName name := by
  revert file
  unfold templateFiles
  simp only [List.forall_mem_cons]
  have hnone := List.forall_mem_nil IsName
  have hfirst := isName_template (slash_not_mem_hello today)
  exact ⟨⟨by decide, isName_template (by decide), hnone⟩,
    ⟨by decide, isName_template (by decide), hnone⟩,
    ⟨by decide, isName_template (by decide), hnone⟩, ⟨isName_template (by decide), hnone⟩,
    ⟨isName_template (by decide), hnone⟩, ⟨by decide, hfirst, hnone⟩, List.forall_mem_nil _⟩

theorem nodup_templateFiles (today : Date) : ((templateFiles {} today).map Prod.fst).Nodup := by
  simp [templateFiles]

/-- No template could be taken for a configuration. -/
theorem parse?_templateFiles {file : List String × String} {today : Date}
    (h : file ∈ templateFiles {} today) : SiteConfig.parse? file.2 = none := by
  have hfirst {texts : List String} {c : Char}
      (htexts : (texts.flatMap fun text => text.toList ++ ['\n']).head? = some c)
      (hc : c = ';' ∨ c = '(') : SiteConfig.parse? (lines texts) = none :=
    SiteConfig.parse?_eq_none_of_head? ((toList_lines texts).symm ▸ htexts) hc
  revert file
  unfold templateFiles
  simp only [List.forall_mem_cons]
  exact ⟨hfirst (c := ';') (by decide) (.inl rfl), hfirst (c := ';') (by decide) (.inl rfl),
    hfirst (c := ';') (by decide) (.inl rfl), hfirst (c := ';') (by decide) (.inl rfl),
    hfirst (c := '(') (by decide) (.inr rfl), hfirst (c := ';') (by decide) (.inl rfl),
    List.forall_mem_nil _⟩

theorem place_template {file : List String × String} {today : Date}
    (hfile : file ∈ templateFiles {} today) (d : Disk) (dir : String) :
    d.place (file.1.foldl join dir) = d.place dir ++ file.1 := by
  obtain ⟨hroot, hmoves⟩ := Disk.moves_of_names (isName_of_mem_templateFiles hfile) dir
  exact Disk.place_append hroot hmoves

/-- The layout that the header of a text names, if its body can be read. -/
def layoutIfRead? (cs : List Char) : Option (Option String) :=
  (Form.readFrom ⟨Layer.firstLine cs, 1⟩ (Header.bodyChars cs)).toOption.map fun _ =>
    (Header.optionsOf cs).layout

theorem compile_of_layoutIfRead? {text : String} {layout : Option String}
    (h : layoutIfRead? text.toList = some layout) (name : String) :
    ∃ layer, Layer.compile name text = .ok layer ∧ layer.options.layout = layout := by
  obtain ⟨forms, hforms, rfl⟩ := Option.map_eq_some_iff.mp h
  have hread : Form.readAll (Header.parse text).2 (Layer.firstLine text.toList) = .ok forms := by
    rw [Form.readAll, Header.parse, String.toList_ofList]
    cases hread : Form.readFrom ⟨Layer.firstLine text.toList, 1⟩ (Header.bodyChars text.toList) with
    | error e =>
      rw [hread] at hforms
      cases hforms
    | ok all =>
      rw [hread] at hforms
      rw [Option.some.inj hforms]
  refine ⟨⟨(Header.parse text).1, ⟨name, forms⟩⟩, ?_, rfl⟩
  rw [Layer.compile]
  dsimp only
  rw [Body.compile, hread]
  rfl

def nestedTexts : List (String × Option String) :=
  [(defaultLayout, none), (postLayout, some "default"), (tagLayout, some "default"),
    (index, some "default"), (feed, none), (firstPost, some "post")]

theorem compile_nestedTexts {text : String} {layout : Option String}
    (h : (text, layout) ∈ nestedTexts) (name : String) :
    ∃ layer, Layer.compile name text = .ok layer ∧ layer.options.layout = layout := by
  have hlines {texts : List String} {layout : Option String}
      (h : layoutIfRead? (texts.flatMap fun text => text.toList ++ ['\n']) = some layout) :
      layoutIfRead? (lines texts).toList = some layout := toList_lines texts ▸ h
  have hall : ∀ t ∈ nestedTexts, layoutIfRead? t.1.toList = some t.2 := by
    unfold nestedTexts
    simp only [List.forall_mem_cons]
    exact ⟨hlines (by decide +kernel), hlines (by decide +kernel), hlines (by decide +kernel),
      hlines (by decide +kernel), hlines (by decide +kernel), hlines (by decide +kernel),
      List.forall_mem_nil _⟩
  exact compile_of_layoutIfRead? (hall _ h) name

/-- Only two of the layouts are named by a template. -/
theorem layout_mem_of_mem_nestedTexts {text layout : String}
    (h : (text, some layout) ∈ nestedTexts) : layout = "default" ∨ layout = "post" := by
  have hall : ∀ t ∈ nestedTexts, ∀ layout ∈ t.2, layout = "default" ∨ layout = "post" := by
    simp [nestedTexts]
  exact hall _ h layout rfl

def firstPostPath (config : SiteConfig) (today : Date) : String :=
  join config.postsDir (today.format ++ "-hello" ++ "." ++ config.build.extension)

/-- The layouts, the pages and the post of a new site are what a builder finds. -/
structure Stocked (b : Builder) (e : Disk) (today : Date) : Prop where
  layouts : ∀ layout ∈ [("default", defaultLayout), ("post", postLayout),
      (b.config.build.tagLayout, tagLayout)], (b.layouts e).read layout.1 = .ok layout.2
  pages : ∀ page ∈ [("index.html", index), ("atom.xml", feed)],
    join b.config.build.templates (page.1 ++ "." ++ b.config.build.extension) ∈
        b.regularTemplates e ∧ (b.templates e).read page.1 = .ok page.2
  post : firstPostPath b.config today ∈ Site.postFiles e b.config ∧
    e.readTemplate (firstPostPath b.config today) = .ok firstPost

/-- The pages and the post of a new site have their turns in a build. -/
structure Served (config : SiteConfig) (today : Date) (turns : List Builder.Turn) : Prop where
  pages : ∀ name ∈ ["index.html", "atom.xml"], ∃ turn ∈ turns, turn.task =
    .template (join config.build.templates (name ++ "." ++ config.build.extension))
  post : ∃ turn ∈ turns, ∃ post, turn.task = .post post ∧ post.source = firstPostPath config today

/-- A file that is read in a directory is listed there under its extension. -/
theorem mem_listFiles_of_read {stem extension text : String} {skip : Bool} (hdir : dir ≠ "")
    (hname : IsName (stem ++ "." ++ extension))
    (hread : e.read (join dir (stem ++ "." ++ extension)) = .ok text) (hstem : stem ≠ "")
    (hdot : '.' ∉ extension.toList) :
    join dir (stem ++ "." ++ extension) ∈ e.listFiles dir extension skip := by
  have hnames : ∀ name ∈ [stem ++ "." ++ extension], IsName name :=
    List.forall_mem_singleton.mpr hname
  obtain ⟨hroot, hmoves⟩ := Disk.moves_of_names hnames dir
  obtain ⟨place, n, hplace, -⟩ := Disk.exists_eq_true_iff.mp (Disk.exists_of_read hread)
  obtain ⟨time, hfile⟩ := (Disk.read_eq_ok_iff hplace).mp hread
  have hbehind : e.place (join dir (stem ++ "." ++ extension)) =
      e.place dir ++ [stem ++ "." ++ extension] := Disk.place_append hroot hmoves
  rw [Disk.place_of_locate hplace, hbehind] at hfile
  have hlisted : e.Listed dir skip [stem ++ "." ++ extension] :=
    ⟨hnames, ⟨text, time, hfile⟩, fun _ _ h => absurd h List.not_mem_nil⟩
  have hextension : extension? ([stem ++ "." ++ extension].foldl join dir) = some extension :=
    (Disk.extension?_foldl_join hnames (List.cons_ne_nil _ _)).mpr ⟨stem, hstem, hdot, rfl⟩
  exact hlisted.mem_listFiles (Disk.isDir_of_read hdir hname hread) hextension

theorem readTemplate_of_read {text : String} (h : e.read path = .ok text) :
    e.readTemplate path = .ok text := by
  rw [Disk.readTemplate, h]

/-- A template is read by its name without the extension, unless that name has it again. -/
theorem read_source {name extension text : String}
    (hsuffix : ("." ++ extension).toList.isSuffixOf name.toList = false)
    (h : e.read (join dir (name ++ "." ++ extension)) = .ok text) :
    (e.source dir extension).read name = .ok text := by
  have hsource : (e.source dir extension).read name =
      e.readTemplate (Disk.templatePath dir extension name) := rfl
  rw [hsource, Disk.templatePath, hsuffix, if_neg Bool.false_ne_true, ← String.append_assoc]
  exact readTemplate_of_read h

/-- Where a builder has the templates of a new site with their usual names, it works with these. -/
theorem stocked_of_read {b : Builder} {today : Date}
    (hlayouts : b.config.build.layouts = "_layouts") (hposts : b.config.build.posts = "_posts")
    (htag : b.config.build.tagLayout = "tag")
    (hext : b.config.build.extension = "sx") (hempty : b.config.build.templates ≠ "")
    (hread : ∀ file ∈ templateFiles {} today,
      e.read (file.1.foldl join b.config.build.templates) = .ok file.2) : Stocked b e today := by
  simp only [templateFiles, List.forall_mem_cons, List.foldl_cons, List.foldl_nil] at hread
  obtain ⟨hdefault, hpost, htagged, hindex, hfeed, hhello, -⟩ := hread
  refine ⟨?_, ?_, ?_⟩
  · simp only [List.forall_mem_cons, Builder.layouts, SiteConfig.layoutsDir, hlayouts, hext, htag]
    refine ⟨?_, ?_, ?_, List.forall_mem_nil _⟩
    · exact read_source (by decide) hdefault
    · exact read_source (by decide) hpost
    · exact read_source (by decide) htagged
  · simp only [List.forall_mem_cons, Builder.templates, Builder.regularTemplates, hext]
    have hpage {stem text : String} (hstem : '/' ∉ stem.toList) (hne : stem ≠ "")
        (hpage : e.read (join b.config.build.templates (stem ++ "." ++ "sx")) = .ok text) :
        join b.config.build.templates (stem ++ "." ++ "sx") ∈
          e.listFiles b.config.build.templates "sx" true :=
      mem_listFiles_of_read hempty (isName_template hstem) hpage hne (by decide)
    exact ⟨⟨hpage (by decide) (by decide) hindex, read_source (by decide) hindex⟩,
      ⟨hpage (by decide) (by decide) hfeed, read_source (by decide) hfeed⟩,
      List.forall_mem_nil _⟩
  · simp only [firstPostPath, Site.postFiles, SiteConfig.postsDir, hposts, hext]
    have hdir : join b.config.build.templates "_posts" ≠ "" :=
      Disk.join_name_ne_empty (by decide) hempty
    have hname := isName_template (slash_not_mem_hello today)
    exact ⟨mem_listFiles_of_read hdir hname hhello (by simp) (by decide),
      readTemplate_of_read hhello⟩

namespace Stocked

variable {b : Builder} {today : Date} (h : Stocked b e today)

include h

theorem isLayer (name : String) {text : String} {layout : Option String}
    (hname : (name, text) ∈ [("default", defaultLayout), ("post", postLayout),
      (b.config.build.tagLayout, tagLayout)]) (htext : (text, layout) ∈ nestedTexts) :
    ∃ layer, Layer.IsLayer (b.layouts e) name layer ∧ layer.options.layout = layout := by
  obtain ⟨layer, hlayer, hlayout⟩ := compile_nestedTexts htext name
  exact ⟨layer, ⟨text, h.layouts (name, text) hname, hlayer⟩, hlayout⟩

/-- The layouts that templates name lead to a chain. -/
theorem exists_chain {name : String} (hname : name = "default" ∨ name = "post") :
    ∃ layers, Layer.chain (b.layouts e) name = .ok layers := by
  have houtermost : (defaultLayout, none) ∈ nestedTexts := List.mem_cons_self
  obtain ⟨outer, houter, hlast⟩ := h.isLayer "default" List.mem_cons_self houtermost
  have hchain : Layer.chain (b.layouts e) "default" = .ok [outer] := Layer.chain_eq_iff.mpr
    (.ends (.here _) (houter.nextName_eq.trans hlast) (.cons houter .nil))
  rcases hname with rfl | rfl
  · exact ⟨_, hchain⟩
  · have hnested : (postLayout, some "default") ∈ nestedTexts := by simp [nestedTexts]
    obtain ⟨inner, hinner, hnext⟩ := h.isLayer "post" (by simp) hnested
    exact ⟨_, (Layer.chain_cons_iff hinner hnext).mpr ⟨_, hchain, rfl⟩⟩

/-- Every template of a new site compiles with its layouts. -/
theorem compiles {text : String} {layout : Option String} (htext : (text, layout) ∈ nestedTexts)
    (name : String) : ∃ doc, Document.compile (b.layouts e) name text true = .ok doc := by
  obtain ⟨layer, hlayer, hlayout⟩ := compile_nestedTexts htext name
  cases layout with
  | none =>
    refine ⟨⟨layer.options, layer.body, []⟩, ?_⟩
    rw [Document.compile, hlayer]
    simp only [bind, Except.bind, hlayout]
    rfl
  | some start =>
    obtain ⟨layers, hchain⟩ := h.exists_chain (layout_mem_of_mem_nestedTexts htext)
    exact ⟨_, Document.compile_eq_ok hlayer hlayout hchain⟩

variable [Toolkit]

/-- The first post is among the posts of the site. -/
theorem exists_post {pipeline : Pipeline} {site : Site} {cells : Cells} {errors : List LogLine}
    (hload : Site.load e b.clock.today b.config pipeline = (site, cells, errors)) :
    ∃ post ∈ site.posts, post.source = firstPostPath b.config today := by
  obtain ⟨hlisted, hread⟩ := h.post
  have hnested : (firstPost, some "post") ∈ nestedTexts := by simp [nestedTexts]
  obtain ⟨layer, hlayer, hlayout⟩ := compile_nestedTexts hnested (firstPostPath b.config today)
  have hdoc : Site.document e b.config (firstPostPath b.config today) =
      .ok ⟨layer.options, layer.body, []⟩ := by
    unfold Site.document Post.document Document.compile
    rw [hread]
    simp only [bind, Except.bind, hlayer, hlayout]
    rfl
  have hsource : firstPostPath b.config today ∈ site.posts.map Post.source := by
    rw [(Site.sources_of_load hload).mem_iff, List.mem_filter]
    exact ⟨hlisted, by rw [Site.failure?_eq_none_iff.mpr ⟨_, hdoc⟩]; rfl⟩
  obtain ⟨post, hpost, hsame⟩ := List.mem_map.mp hsource
  exact ⟨post, hpost, hsame⟩

/-- A build takes the pages and the post of a new site in their turns. -/
theorem served_of_builds {site : Site} {errors : List LogLine} {turns : List Builder.Turn}
    {t : Disk × Cells} (hbuilds : b.Builds e site errors turns t) :
    Served b.config today turns := by
  have hturn {task : Task} (htask : task ∈ b.tasks e site) : ∃ turn ∈ turns, turn.task = task := by
    rw [← hbuilds.tasks] at htask
    exact List.mem_map.mp htask
  refine ⟨fun name hname => hturn ?_, ?_⟩
  · obtain ⟨text, hpage⟩ : ∃ text, (name, text) ∈ [("index.html", index), ("atom.xml", feed)] := by
      simpa [exists_or] using hname
    have hregular := (h.pages (name, text) hpage).1
    simp [Builder.tasks, hregular]
  · obtain ⟨cells, hload, -⟩ := hbuilds.load
    obtain ⟨post, hpost, hsource⟩ := h.exists_post hload
    have htask : Task.post post ∈ b.tasks e site := by simp [Builder.tasks, hpost]
    obtain ⟨turn, hmem, htask⟩ := hturn htask
    exact ⟨turn, hmem, post, htask, hsource⟩

/-- A builder that does not clear the output first builds the new site. -/
theorem exists_build (hclean : b.config.build.clean = false) :
    ∃ site errors turns ok w', b.build ⟨e, [], []⟩ = (.ok ok, w') ∧
      b.Builds e site errors turns w'.state ∧ Served b.config today turns := by
  have hcleared : b.cleared e = .ok e := by
    rw [Builder.cleared, hclean]
    rfl
  obtain ⟨site, errors, turns, ok, w', hbuild, hbuilds, -⟩ :=
    Builder.build_of_cleared (w := ⟨e, [], []⟩) hcleared
  exact ⟨site, errors, turns, ok, w', hbuild, hbuilds, h.served_of_builds hbuilds⟩

end Stocked

end Starter
end LayeredSite
