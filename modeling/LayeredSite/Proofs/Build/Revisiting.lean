import LayeredSite.Program
import LayeredSite.Proofs.Build.Beginning
import LayeredSite.Proofs.Build.Stock

namespace LayeredSite

open LayeredSite.Path

def CommandLine.rebuild (line : CommandLine) (root : Option String) : CommandLine :=
  { root, config := line.config, command := .build false none }

namespace Starter

variable {line : CommandLine} {name root : Option String} {config again : SiteConfig}
  {named : Bool} {clock : Clock} {d e made : Disk}
  {dir dir' path : String}

/-- What a path leads to behind a directory depends on the place of the directory. -/
theorem place_join_congr (hdir : isAbsolute dir = true) (hdir' : isAbsolute dir' = true)
    (h : e.place dir' = d.place dir) (path : String) :
    e.place (join dir' path) = d.place (join dir path) := by
  by_cases hpath : isAbsolute path = true
  · rw [join, join, if_pos hpath, if_pos hpath, Disk.place, Disk.place, if_pos hpath, if_pos hpath]
  · have hrelative := Bool.eq_false_iff.mpr hpath
    rw [Disk.place, if_pos hdir'] at h
    rw [Disk.place, Disk.place, isAbsolute_join hrelative, isAbsolute_join hrelative, if_pos hdir',
      if_pos hdir, moves_join hrelative, moves_join hrelative, List.foldl_append,
      List.foldl_append, h, Disk.place, if_pos hdir]

/-- The paths of a new site: the options of the command line, or else the defaults, behind the
root. -/
structure Fresh (d : Disk) (line : CommandLine) (config : SiteConfig) : Prop where
  root : isAbsolute config.root = true
  configPath : config.configPath = join config.root line.config
  templates : config.build.templates = SiteConfig.normalize d
    (join config.root (line.templates.getD ({} : BuildSettings).templates))
  output : config.build.output = SiteConfig.normalize d
    (join config.root (line.output.getD ({} : BuildSettings).output))
  named : ∀ today, templateFiles config.build today = templateFiles {} today

theorem fresh_of_forCommand (hcommand : line.command = .init name)
    (hconfig : SiteConfig.forCommand d line = .ok config) : Fresh d line config := by
  obtain ⟨hresolve, hnothing⟩ :=
    SiteConfig.forCommand_of_isInit (by rw [hcommand]; rfl) hconfig
  have hoptions : (({} : SiteConfig).withOptions line).build =
      { ({} : BuildSettings) with
        templates := line.templates.getD ({} : BuildSettings).templates
        output := line.output.getD ({} : BuildSettings).output } := by
    rw [SiteConfig.withOptions, hcommand]
  have hroot : isAbsolute config.root = true := by
    rw [hresolve]
    exact SiteConfig.isAbsolute_normalize d _
  refine ⟨hroot, ?_, ?_, ?_, fun today => ?_⟩
  · have hjoin := isAbsolute_join_of_dir hroot line.config
    have hpath := SiteConfig.normalize_of_missing hjoin hnothing
    rw [hresolve] at hpath ⊢
    exact hpath
  · rw [hresolve]
    change SiteConfig.normalize d (join _ (({} : SiteConfig).withOptions line).build.templates) = _
    rw [hoptions]
    rfl
  · rw [hresolve]
    change SiteConfig.normalize d (join _ (({} : SiteConfig).withOptions line).build.output) = _
    rw [hoptions]
    rfl
  · rw [hresolve]
    change templateFiles { (({} : SiteConfig).withOptions line).build with .. } today = _
    rw [hoptions]
    rfl

/-- No template is in the place of the configuration. -/
def Spared (d : Disk) (config : SiteConfig) (line : CommandLine) (today : Date) : Prop :=
  ∀ file ∈ templateFiles {} today, d.place (join config.root line.config) ≠
    d.place (join config.root (line.templates.getD ({} : BuildSettings).templates)) ++ file.1

/-- A configuration outside the templates is spared. -/
theorem spared_of_not_prefix {today : Date}
    (h : ¬ d.place (join config.root (line.templates.getD ({} : BuildSettings).templates)) <+:
      d.place (join config.root line.config)) : Spared d config line today :=
  fun file _ hsame => h ⟨file.1, hsame.symm⟩

/-- The options lead where a site has its templates and its output anyway, and the configuration is
spared. -/
structure Conforms (d : Disk) (config : SiteConfig) (line : CommandLine) (today : Date) :
    Prop where
  templates : d.place (join config.root (line.templates.getD ({} : BuildSettings).templates)) =
    d.place (join config.root ({} : BuildSettings).templates)
  output : d.place (join config.root (line.output.getD ({} : BuildSettings).output)) =
    d.place (join config.root ({} : BuildSettings).output)
  spared : Spared d config line today

namespace Fresh

variable (hfresh : Fresh d line config)

include hfresh

theorem place_templates : d.place config.build.templates =
    d.place (join config.root (line.templates.getD ({} : BuildSettings).templates)) := by
  rw [hfresh.templates]
  exact SiteConfig.place_normalize (isAbsolute_join_of_dir hfresh.root _) d

theorem place_output : d.place config.build.output =
    d.place (join config.root (line.output.getD ({} : BuildSettings).output)) := by
  rw [hfresh.output]
  exact SiteConfig.place_normalize (isAbsolute_join_of_dir hfresh.root _) d

theorem files_eq (today : Date) : files config today =
    (config.configPath, SiteConfig.starterText) :: (templateFiles {} today).map fun file =>
      (file.1.foldl join config.build.templates, file.2) := by
  rw [Starter.files_eq, hfresh.named]

variable (hmade : make config named clock d = (.ok (), made))

include hmade

/-- Every template of a new site is there. -/
theorem holds_template {file : List String × String} (hfile : file ∈ templateFiles {} clock.today) :
    Holds (d.place config.build.templates ++ file.1)
      (file.1.foldl join config.build.templates, file.2) d made := by
  obtain ⟨before, after, hsplit⟩ := List.append_of_mem hfile
  have hnodup := nodup_templateFiles clock.today
  have hfiles := hfresh.files_eq clock.today
  rw [← place_template hfile d]
  rw [hsplit, List.map_append, List.map_cons, ← List.cons_append] at hfiles
  refine holds_of_make hmade (file.1.foldl join config.build.templates, file.2) hfiles
    fun later hlater => ?_
  obtain ⟨other, hother, rfl⟩ := List.mem_map.mp hlater
  have hmem : other ∈ templateFiles {} clock.today := by simp [hsplit, hother]
  rw [place_template hmem, place_template hfile]
  intro hsame
  rw [hsplit, List.map_append, List.map_cons] at hnodup
  have hnot := (List.nodup_cons.mp hnodup.of_append_right).1
  exact hnot (List.append_cancel_left hsame ▸ List.mem_map_of_mem hother)

theorem locate_configPath : made.locate config.configPath = .ok (d.place config.configPath) :=
  locate_of_make hmade (config.configPath, SiteConfig.starterText)
    (by rw [hfresh.files_eq]; exact List.mem_cons_self)

/-- The configuration is there unless a template is in its place. -/
theorem read_config (hspared : Spared d config line clock.today) :
    made.read config.configPath = .ok SiteConfig.starterText := by
  have hfiles : files config clock.today = [] ++ (config.configPath, SiteConfig.starterText) ::
      _ := hfresh.files_eq clock.today
  refine (holds_of_make hmade _ hfiles fun later hlater => ?_).read
  obtain ⟨file, hfile, rfl⟩ := List.mem_map.mp hlater
  have hother := hspared file hfile
  rw [← hfresh.configPath, ← hfresh.place_templates] at hother
  rw [place_template hfile]
  exact hother.symm

theorem read_overwritten {file : List String × String}
    (hfile : file ∈ templateFiles {} clock.today)
    (hsame : d.place (join config.root line.config) =
      d.place (join config.root (line.templates.getD ({} : BuildSettings).templates)) ++ file.1) :
    ∃ text, made.read config.configPath = .ok text ∧ SiteConfig.parse? text = none := by
  have hholds := hfresh.holds_template hmade hfile
  rw [← hfresh.configPath, ← hfresh.place_templates] at hsame
  have hpath := hfresh.locate_configPath hmade
  rw [hsame, ← hholds.locate] at hpath
  exact ⟨file.2, (Disk.read_congr hpath).trans hholds.read, parse?_templateFiles hfile⟩

end Fresh

def defaultsAt (e : Disk) (line : CommandLine) (root : Option String) : SiteConfig :=
  ({} : SiteConfig).resolve e (line.rebuild root)

/-- A disk with the tree of a new site, on which a root leads to the site. -/
structure Reaches (config : SiteConfig) (made e : Disk) (root : Option String) : Prop where
  current : ∀ name ∈ e.current, IsName name
  tree : e.root = made.root
  root : e.locate (SiteConfig.normalize e (root.getD "./")) = made.locate config.root

theorem load_of_read {text : String} {c : SiteConfig} (h : d.read path = .ok text)
    (hparse : SiteConfig.parse? text = some c) : SiteConfig.load d path = .ok c := by
  simp only [SiteConfig.load, h, hparse]

theorem load_of_malformed {text : String} (h : d.read path = .ok text)
    (hparse : SiteConfig.parse? text = none) : SiteConfig.load d path = .error .malformed := by
  simp only [SiteConfig.load, h, hparse]

/-- The configuration of a command that finds a file is that of the file, if it is valid. -/
theorem forCommand_of_load {c : SiteConfig} (hinit : line.command.isInit = false)
    (hthere : d.exists_ (join (line.root.getD "./") line.config) = true)
    (hload : SiteConfig.load d (join (line.root.getD "./") line.config) = .ok c)
    (hsettings : (c.resolve d line).validateSettings = .ok ())
    (hpath : d.exists_ (c.resolve d line).configPath = true) :
    SiteConfig.forCommand d line = if d.isDir (c.resolve d line).build.templates
      then .ok (c.resolve d line)
      else .error (.noTemplates (c.resolve d line).build.templates) := by
  unfold SiteConfig.forCommand SiteConfig.validate
  dsimp only
  rw [hinit, if_neg Bool.false_ne_true, if_pos hthere, hload]
  change (((c.resolve d line).validateSettings >>= fun _ => _) >>= fun _ => _) = _
  rw [hsettings, hpath]
  cases d.isDir (c.resolve d line).build.templates <;> rfl

theorem validateSettings_default : ({} : SiteConfig).validateSettings = .ok () := by
  decide +kernel

namespace Reaches

variable (hreach : Reaches config made e root) (hfresh : Fresh d line config)
  (hmade : make config named clock d = (.ok (), made))

include hreach hfresh hmade

theorem place_root :
    e.place (SiteConfig.normalize e (root.getD "./")) = d.place config.root := by
  obtain ⟨above, entries, habove, -⟩ :=
    root_of_make hmade (ne_empty_of_isAbsolute hfresh.root)
  have hroot := hreach.root.trans habove
  rw [← Disk.place_of_locate hroot, Disk.place_of_locate habove,
    Disk.place_eq_of_current (later_of_make hmade).1]

/-- Behind the root, paths lead to the places they had in the making of the site. -/
theorem place_behind (path : String) :
    e.place (SiteConfig.normalize e (join (SiteConfig.normalize e (root.getD "./")) path)) =
      d.place (join config.root path) := by
  have hroot := SiteConfig.isAbsolute_normalize e (root.getD "./")
  rw [SiteConfig.place_normalize (isAbsolute_join_of_dir hroot path),
    place_join_congr hfresh.root hroot (hreach.place_root hfresh hmade)]

/-- The defaults from the root of the site again have the directories that the site was made with
exactly if the options lead to these. -/
theorem same_dirs_iff :
    (e.place (defaultsAt e line root).build.templates =
        made.place config.build.templates ∧
      e.place (defaultsAt e line root).build.output =
        made.place config.build.output) ↔
    d.place (join config.root (line.templates.getD ({} : BuildSettings).templates)) =
        d.place (join config.root ({} : BuildSettings).templates) ∧
      d.place (join config.root (line.output.getD ({} : BuildSettings).output)) =
        d.place (join config.root ({} : BuildSettings).output) := by
  have hplace (path : String) : made.place path = d.place path :=
    Disk.place_eq_of_current (later_of_make hmade).1 path
  have htemplates : e.place (defaultsAt e line root).build.templates =
      d.place (join config.root ({} : BuildSettings).templates) :=
    hreach.place_behind hfresh hmade _
  have houtput : e.place (defaultsAt e line root).build.output =
      d.place (join config.root ({} : BuildSettings).output) :=
    hreach.place_behind hfresh hmade _
  rw [htemplates, houtput, hplace, hplace, hfresh.place_templates, hfresh.place_output]
  exact and_congr eq_comm eq_comm

theorem described_iff : (∃ written, SiteConfig.load e config.configPath = .ok written ∧
      e.place (written.resolve e (line.rebuild root)).build.templates =
        made.place config.build.templates ∧
      e.place (written.resolve e (line.rebuild root)).build.output =
        made.place config.build.output) ↔ Conforms d config line clock.today := by
  have hpath : isAbsolute config.configPath = true := by
    rw [hfresh.configPath]
    exact isAbsolute_join_of_dir hfresh.root line.config
  have hread := Disk.read_of_tree hreach.tree (Disk.locate_of_isAbsolute hreach.tree hpath)
  constructor
  · rintro ⟨written, hload, hdirs⟩
    have hspared : Spared d config line clock.today := by
      intro file hfile hsame
      obtain ⟨text, htext, hparse⟩ := hfresh.read_overwritten hmade hfile hsame
      rw [load_of_malformed (hread.trans htext) hparse] at hload
      cases hload
    rw [load_of_read (hread.trans (hfresh.read_config hmade hspared))
      SiteConfig.parse?_starterText] at hload
    obtain rfl := Except.ok.inj hload
    obtain ⟨htemplates, houtput⟩ := (hreach.same_dirs_iff hfresh hmade).mp hdirs
    exact ⟨htemplates, houtput, hspared⟩
  · rintro ⟨htemplates, houtput, hspared⟩
    exact ⟨{}, load_of_read (hread.trans (hfresh.read_config hmade hspared))
      SiteConfig.parse?_starterText,
      (hreach.same_dirs_iff hfresh hmade).mpr ⟨htemplates, houtput⟩⟩

theorem locate_behind (path : String) :
    e.locate (join (SiteConfig.normalize e (root.getD "./")) path) =
      made.locate (join config.root path) := by
  obtain ⟨above, entries, habove, hthere⟩ :=
    root_of_make hmade (ne_empty_of_isAbsolute hfresh.root)
  exact Disk.locate_join_congr hreach.tree habove (hreach.root.trans habove) hthere path

section Spared

variable (hspared : Spared d config line clock.today)

include hspared

/-- The configuration is found where a command without options looks for it. -/
theorem locate_config : e.locate (join (root.getD "./") line.config) =
    .ok (d.place config.configPath) := by
  obtain ⟨above, entries, habove, hthere⟩ :=
    root_of_make hmade (ne_empty_of_isAbsolute hfresh.root)
  have hpath := hfresh.locate_configPath hmade
  have hread := hfresh.read_config hmade hspared
  rw [hfresh.configPath] at hpath hread ⊢
  have hne : line.config ≠ "" := by
    intro hempty
    rw [hempty] at hread
    obtain ⟨time, hfile⟩ :=
      (Disk.read_eq_ok_iff (Disk.locate_join_empty habove hthere)).mp hread
    cases hfile.symm.trans hthere
  rw [SiteConfig.locate_join_normalize hreach.current (hreach.root.trans habove)
    (hreach.tree ▸ hthere) hne, hreach.locate_behind hfresh hmade, hpath]

/-- The configuration is read where the defaults have it. -/
theorem read_configPath :
    e.read (defaultsAt e line root).configPath = .ok SiteConfig.starterText := by
  have hpath := hfresh.locate_configPath hmade
  have hagain : e.locate (defaultsAt e line root).configPath = .ok (d.place config.configPath) := by
    refine SiteConfig.locate_normalize
      (isAbsolute_join_of_dir (SiteConfig.isAbsolute_normalize e _) _) ?_
    exact (hreach.locate_behind hfresh hmade line.config).trans (hfresh.configPath ▸ hpath)
  exact (Disk.read_of_tree hreach.tree (hagain.trans hpath.symm)).trans
    (hfresh.read_config hmade hspared)

/-- A command without options works with the defaults, if these have templates. -/
theorem forCommand_rebuild : SiteConfig.forCommand e (line.rebuild root) =
    if e.isDir (defaultsAt e line root).build.templates then .ok (defaultsAt e line root)
    else .error (.noTemplates (defaultsAt e line root).build.templates) := by
  have hpath := hreach.locate_config hfresh hmade hspared
  have hread : e.read (join (root.getD "./") line.config) = .ok SiteConfig.starterText :=
    (Disk.read_of_tree hreach.tree (hpath.trans (hfresh.locate_configPath hmade).symm)).trans
      (hfresh.read_config hmade hspared)
  exact forCommand_of_load rfl (Disk.exists_of_read hread)
    (load_of_read hread SiteConfig.parse?_starterText) validateSettings_default
    (Disk.exists_of_read (hreach.read_configPath hfresh hmade hspared))

end Spared

section Conforms

variable (hconforms : Conforms d config line clock.today)

include hconforms

/-- The templates are found where the defaults have them. -/
theorem locate_templates : ∃ entries,
    made.locate config.build.templates = .ok (d.place config.build.templates) ∧
    e.locate (defaultsAt e line root).build.templates = .ok (d.place config.build.templates) ∧
    made.root.get (d.place config.build.templates) = .ok (.dir entries) := by
  have hindex : (["index.html" ++ "." ++ "sx"], index) ∈ templateFiles {} clock.today := by
    simp [templateFiles]
  have hname := isName_of_mem_templateFiles hindex _ (List.mem_singleton_self _)
  have htemplates : isAbsolute config.build.templates = true := by
    rw [hfresh.templates]
    exact SiteConfig.isAbsolute_normalize d _
  obtain ⟨place, entries, hplace, hthere, -⟩ := Disk.locate_join
    (ne_empty_of_isAbsolute htemplates) hname (hfresh.holds_template hmade hindex).locate
  obtain rfl : place = d.place config.build.templates := by
    rw [Disk.place_of_locate hplace, Disk.place_eq_of_current (later_of_make hmade).1]
  refine ⟨entries, hplace, ?_, hthere⟩
  obtain ⟨above, entries, habove, hroot⟩ :=
    root_of_make hmade (ne_empty_of_isAbsolute hfresh.root)
  have hdefault : made.locate (join config.root ({} : BuildSettings).templates) =
      .ok (above ++ [({} : BuildSettings).templates]) :=
    Disk.locate_join_name habove hroot (by decide) (by decide) (by decide)
  have hsame : above ++ [({} : BuildSettings).templates] = d.place config.build.templates := by
    rw [hfresh.place_templates, hconforms.templates, Disk.place_of_locate hdefault,
      Disk.place_eq_of_current (later_of_make hmade).1]
  rw [← hreach.locate_behind hfresh hmade, hsame] at hdefault
  exact SiteConfig.locate_normalize
    (isAbsolute_join_of_dir (SiteConfig.isAbsolute_normalize e _) _) hdefault

/-- Every template is read where the defaults have it. -/
theorem read_template {file : List String × String}
    (hfile : file ∈ templateFiles {} clock.today) :
    e.locate (file.1.foldl join (defaultsAt e line root).build.templates) =
        .ok (d.place config.build.templates ++ file.1) ∧
      e.read (file.1.foldl join (defaultsAt e line root).build.templates) = .ok file.2 := by
  obtain ⟨entries, hmade', hagain, -⟩ := hreach.locate_templates hfresh hmade hconforms
  have hholds := hfresh.holds_template hmade hfile
  have hlocate := Disk.locate_foldl_join_congr hreach.tree (isName_of_mem_templateFiles hfile)
    hmade' hagain hholds.locate
  exact ⟨hlocate,
    (Disk.read_of_tree hreach.tree (hlocate.trans hholds.locate.symm)).trans hholds.read⟩

theorem forCommand_of_conforms :
    SiteConfig.forCommand e (line.rebuild root) = .ok (defaultsAt e line root) := by
  obtain ⟨entries, -, htemplates, hthere⟩ := hreach.locate_templates hfresh hmade hconforms
  have hdir : e.isDir (defaultsAt e line root).build.templates = true := by
    rw [Disk.isDir, Disk.node_of_locate htemplates, hreach.tree, hthere]
    rfl
  rw [hreach.forCommand_rebuild hfresh hmade hconforms.spared, if_pos hdir]

/-- Every file of the new site is read where the defaults have it. -/
theorem read_files : ∀ file ∈ files (defaultsAt e line root) clock.today,
    e.read file.1 = .ok file.2 := by
  rw [Starter.files_eq]
  refine List.forall_mem_cons.mpr ⟨hreach.read_configPath hfresh hmade hconforms.spared, ?_⟩
  intro path hpath
  obtain ⟨file, hfile, rfl⟩ := List.mem_map.mp hpath
  exact (hreach.read_template hfresh hmade hconforms hfile).2

theorem stocked [Toolkit] (later : Clock) :
    Stocked (Builder.standard (defaultsAt e line root) later) e clock.today :=
  stocked_of_read rfl rfl rfl rfl (ne_empty_of_isAbsolute (SiteConfig.isAbsolute_normalize e _))
    fun _ hfile => (hreach.read_template hfresh hmade hconforms hfile).2

end Conforms

end Reaches

section Roots

variable (hcurrent : ∀ name ∈ d.current, IsName name) (hfresh : Fresh d line config)
  (hmade : make config named clock d = (.ok (), made))

include hcurrent hfresh hmade

/-- A root that the site was made at leads there afterwards. -/
theorem reaches_of_normalize {dir : String} (hroot : config.root = SiteConfig.normalize d dir) :
    Reaches config made made (some dir) := by
  obtain ⟨hsame, hlater⟩ := later_of_make hmade
  obtain ⟨above, entries, habove, hthere⟩ :=
    root_of_make hmade (ne_empty_of_isAbsolute hfresh.root)
  refine ⟨hsame ▸ hcurrent, rfl, habove.symm ▸ ?_⟩
  exact SiteConfig.locate_normalize_of_later hcurrent hsame hlater (hroot ▸ habove) hthere

omit hcurrent in
/-- In the directory of the site no root is needed. -/
theorem reaches_here :
    Reaches config made { made with current := made.place config.root } none := by
  obtain ⟨above, entries, habove, hthere⟩ :=
    root_of_make hmade (ne_empty_of_isAbsolute hfresh.root)
  obtain rfl : above = made.place config.root := Disk.place_of_locate habove
  let here : Disk := { made with current := made.place config.root }
  have hdot : here.locate "./" = .ok (made.place config.root) := by
    refine Disk.locate_eq_ok_iff.mpr ⟨by decide, by decide, ?_⟩
    have hsteps : Disk.steps "./" = [".", "."] := by decide
    change Disk.follow made.root (made.place config.root) (Disk.steps "./") = _
    have hshort : ¬ 255 < ".".utf8ByteSize := by decide
    rw [hsteps]
    simp [Disk.follow, hthere, hshort]
  refine ⟨Disk.isName_of_locate hfresh.root habove, rfl, ?_⟩
  have hnormal : SiteConfig.normalize here "./" = Disk.absolute (made.place config.root) := by
    rw [SiteConfig.normalize, Disk.canonical?_of_locate hdot hthere]
  change here.locate (SiteConfig.normalize here "./") = _
  rw [hnormal, habove]
  have hthis : here.locate config.root = made.locate config.root :=
    Disk.locate_of_isAbsolute rfl hfresh.root
  exact Disk.locate_absolute hfresh.root (hthis.trans habove)

end Roots

/-- What is to be said of a new site, if it is made. -/
def afterInit {α : Type} (d : Disk) (line : CommandLine) (named : Bool) (clock : Clock)
    (p : SiteConfig → Disk → α) : Option α :=
  match SiteConfig.forCommand d line with
  | .error _ => none
  | .ok config => match make config named clock d with
    | (.error _, _) => none
    | (.ok (), made) => some (p config made)

theorem exists_of_afterInit {α : Type} {p : SiteConfig → Disk → α} {a : α}
    (h : afterInit d line named clock p = some a) :
    ∃ config made, SiteConfig.forCommand d line = .ok config ∧
      make config named clock d = (.ok (), made) ∧ p config made = a := by
  unfold afterInit at h
  split at h
  · cases h
  · rename_i config hconfig
    split at h
    · cases h
    · rename_i made hmade
      exact ⟨config, made, hconfig, hmade, Option.some.inj h⟩

/-- A new site is described by its configuration exactly if the options of its command line lead
where the defaults do and no template is in the place of the configuration. Then a build without
options from any root of the site works with all that was written. -/
theorem revisited_as_made_iff [Toolkit] (hcurrent : ∀ name ∈ d.current, IsName name)
    (hcommand : line.command = .init name) (hconfig : SiteConfig.forCommand d line = .ok config)
    (hmade : make config name.isSome clock d = (.ok (), made)) :
    (Reaches config made made (some (({} : SiteConfig).rootFor line)) ∧
      Reaches config made { made with current := made.place config.root } none) ∧
    ∀ e root, Reaches config made e root →
      ((∃ written, SiteConfig.load e config.configPath = .ok written ∧
        e.place (written.resolve e (line.rebuild root)).build.templates =
          made.place config.build.templates ∧
        e.place (written.resolve e (line.rebuild root)).build.output =
          made.place config.build.output) ↔ Conforms d config line clock.today) ∧
      (Conforms d config line clock.today →
        ∃ again, SiteConfig.forCommand e (line.rebuild root) = .ok again ∧
          (∀ file ∈ files again clock.today, e.read file.1 = .ok file.2) ∧
          ∀ later, let b := Builder.standard again later
            Stocked b e clock.today ∧
            (∀ t ∈ nestedTexts, ∀ name,
              ∃ doc, Document.compile (b.layouts e) name t.1 true = .ok doc) ∧
            ∃ site errors turns ok w', b.build ⟨e, [], []⟩ = (.ok ok, w') ∧
              b.Builds e site errors turns w'.state ∧ Served again clock.today turns) := by
  have hfresh := fresh_of_forCommand hcommand hconfig
  -- All that follows is about the root as it was normalized when the site was made.
  have hroot : config.root = SiteConfig.normalize d (({} : SiteConfig).rootFor line) := by
    rw [(SiteConfig.forCommand_of_isInit (by rw [hcommand]; rfl) hconfig).1]
    rfl
  refine ⟨⟨reaches_of_normalize hcurrent hfresh hmade hroot, reaches_here hfresh hmade⟩, ?_⟩
  intro e root hreach
  refine ⟨hreach.described_iff hfresh hmade, fun hconforms => ?_⟩
  refine ⟨defaultsAt e line root, hreach.forCommand_of_conforms hfresh hmade hconforms,
    hreach.read_files hfresh hmade hconforms, fun later => ?_⟩
  have hstocked := hreach.stocked hfresh hmade hconforms later
  exact ⟨hstocked, fun _ ht name => hstocked.compiles ht name, hstocked.exists_build rfl⟩

/-- Options that lead where the defaults do. -/
def detourLine : CommandLine :=
  { command := .init none, templates := some "./template", output := some "public/" }

theorem revisited_after_detours : ∃ config made again,
    SiteConfig.forCommand ⟨.dir [], []⟩ detourLine = .ok config ∧
    make config false ⟨3, Date.epoch⟩ ⟨.dir [], []⟩ = (.ok (), made) ∧
    SiteConfig.forCommand made (detourLine.rebuild (some "./")) = .ok again ∧
    ∀ file ∈ files again Date.epoch, made.read file.1 = .ok file.2 := by
  have hrun : afterInit ⟨.dir [], []⟩ detourLine false ⟨3, Date.epoch⟩
      (fun config _ => config.root) = some "/" := by
    decide +kernel
  obtain ⟨config, made, hconfig, hmade, hroot⟩ := exists_of_afterInit hrun
  have hcommand : detourLine.command = .init none := rfl
  obtain ⟨⟨hreach, -⟩, hagain⟩ := revisited_as_made_iff
    (fun _ hname => absurd hname List.not_mem_nil) hcommand hconfig hmade
  have hconforms : Conforms ⟨.dir [], []⟩ config detourLine Date.epoch := by
    refine ⟨?_, ?_, spared_of_not_prefix ?_⟩ <;> rw [hroot] <;> decide
  obtain ⟨again, hfound, hfiles, -⟩ := (hagain made _ hreach).2 hconforms
  exact ⟨config, made, again, hconfig, hmade, hfound, hfiles⟩

/-- The option for the templates is forgotten, so that a build finds none. -/
theorem options_not_written : ∃ config made,
    SiteConfig.forCommand notesDisk blogLine = .ok config ∧
    make config true ⟨3, Date.epoch⟩ notesDisk = (.ok (), made) ∧
    SiteConfig.load made config.configPath = .ok {} ∧
    made.place (({} : SiteConfig).resolve made (blogLine.rebuild (some "blog"))).build.templates ≠
      made.place config.build.templates ∧
    SiteConfig.forCommand made (blogLine.rebuild (some "blog")) =
      .error (.noTemplates "/home/blog/template") := by
  have hrun : afterInit notesDisk blogLine true ⟨3, Date.epoch⟩ (fun config made =>
      (config.root, (defaultsAt made blogLine (some "blog")).build.templates,
        made.isDir "/home/blog/template")) = some ("/home/blog", "/home/blog/template", false) := by
    decide +kernel
  obtain ⟨config, made, hconfig, hmade, hparts⟩ := exists_of_afterInit hrun
  obtain ⟨hroot, hparts⟩ := Prod.mk.inj hparts
  obtain ⟨hdefault, hmissing⟩ := Prod.mk.inj hparts
  have hfresh := fresh_of_forCommand rfl hconfig
  have hblog : SiteConfig.normalize notesDisk "blog" = "/home/blog" := by decide +kernel
  have hreach : Reaches config made made (some "blog") :=
    reaches_of_normalize (by decide) hfresh hmade (hroot.trans hblog.symm)
  have hspared : Spared notesDisk config blogLine Date.epoch := by
    refine spared_of_not_prefix ?_
    rw [hroot]
    decide
  refine ⟨config, made, hconfig, hmade, ?_, ?_, ?_⟩
  · exact load_of_read (hfresh.read_config hmade hspared) SiteConfig.parse?_starterText
  · change made.place (defaultsAt made blogLine (some "blog")).build.templates ≠ _
    rw [hdefault, Disk.place_eq_of_current (later_of_make hmade).1,
      Disk.place_eq_of_current (later_of_make hmade).1, hfresh.place_templates, hroot]
    decide
  · rw [hreach.forCommand_rebuild hfresh hmade hspared, hdefault, hmissing]
    rfl

end Starter
end LayeredSite
