import LayeredSite.Config.Resolve
import LayeredSite.Proofs.Disk.Growth
import LayeredSite.Proofs.Disk.Listing

namespace LayeredSite

open LayeredSite.Path

def CommandLine.sitePaths (line : CommandLine) : List String :=
  line.config :: (line.root.toList ++ line.templates.toList ++ line.output.toList ++
    match line.command with
    | .init name => name.toList
    | _ => [])

theorem Path.parent_mem_components_iff {path : String} :
    Component.parent ∈ components path ↔ Component.parent ∈ moves path := by
  have hstart : Component.parent ∉ start path := by
    unfold start
    split
    · simp
    · split <;> simp
  rw [components_eq, List.mem_append, or_iff_right hstart]

/-- What is behind a directory has a `..` only if one of them has. -/
theorem Path.parent_not_mem_join {dir path : String} (hdir : Component.parent ∉ moves dir)
    (hpath : Component.parent ∉ moves path) : Component.parent ∉ moves (join dir path) := by
  by_cases hroot : isAbsolute path = true
  · rwa [join, if_pos hroot]
  · rw [moves_join (Bool.eq_false_iff.mpr hroot), List.mem_append]
    exact not_or.mpr ⟨hdir, hpath⟩

theorem Path.isAbsolute_join_of_dir {dir : String} (h : isAbsolute dir = true) (path : String) :
    isAbsolute (join dir path) = true := by
  by_cases hroot : isAbsolute path = true
  · rwa [join, if_pos hroot]
  · rwa [isAbsolute_join (Bool.eq_false_iff.mpr hroot)]

theorem Path.ne_empty_of_isAbsolute {path : String} (h : isAbsolute path = true) : path ≠ "" := by
  rintro rfl
  cases h

namespace Disk

variable {d : Disk} {names : List String} {path : String}

theorem isAbsolute_absolute (names : List String) : isAbsolute (absolute names) = true := by
  rw [absolute, isAbsolute, String.toList_append]
  rfl

theorem moves_absolute (h : ∀ name ∈ names, IsName name) :
    moves (absolute names) = names.map .name := by
  by_cases hnone : names = []
  · rw [hnone]
    decide
  · have hjoin : absolute names = names.foldl join "/" := by
      rw [foldl_join_eq hnone h, join, if_neg (by simp [isAbsolute_names hnone h])]
      rfl
    rw [hjoin, (moves_of_names h "/").2]
    rfl

theorem eq_of_canonical? {whole : String} (h : d.canonical? path = some whole) :
    whole = absolute (d.place path) := by
  unfold canonical? at h
  split at h
  · rename_i names hpath
    split at h
    · rw [← place_of_locate hpath]
      exact (Option.some.inj h).symm
    · cases h
  · cases h

theorem canonical?_of_exists_eq_false (h : d.exists_ path = false) : d.canonical? path = none := by
  unfold canonical?
  split
  · rename_i names hpath
    rw [exists_, node_of_locate hpath] at h
    rw [if_neg (by simp [h])]
  · rfl

end Disk

namespace SiteConfig

open LayeredSite.Disk

variable {disk : Disk} {path : String} {line : CommandLine} {config : SiteConfig}

theorem isAbsolute_normalize (disk : Disk) (path : String) :
    isAbsolute (normalize disk path) = true := by
  unfold normalize
  split
  · rename_i whole hwhole
    rw [eq_of_canonical? hwhole]
    exact isAbsolute_absolute _
  · split
    · assumption
    · exact isAbsolute_join_of_dir (isAbsolute_absolute _) path

theorem parent_not_mem_normalize (hcurrent : ∀ name ∈ disk.current, IsName name)
    (h : Component.parent ∉ moves path) : Component.parent ∉ moves (normalize disk path) := by
  have habsolute {names : List String} (hnames : ∀ name ∈ names, IsName name) :
      Component.parent ∉ moves (absolute names) := by
    rw [moves_absolute hnames]
    simp
  unfold normalize
  split
  · rename_i whole hwhole
    rw [eq_of_canonical? hwhole]
    exact habsolute (isName_of_mem_place hcurrent path)
  · split
    · exact h
    · exact parent_not_mem_join (habsolute hcurrent) h

theorem normalize_of_missing (hroot : isAbsolute path = true) (h : disk.exists_ path = false) :
    normalize disk path = path := by
  rw [normalize, canonical?_of_exists_eq_false h]
  exact if_pos hroot

/-- What a configuration names below the templates stays right there. -/
structure Plain (config : SiteConfig) : Prop where
  layouts : IsName config.build.layouts
  posts : IsName config.build.posts
  tagLayout : '/' ∉ config.build.tagLayout.toList
  extension : config.build.extension ≠ "" ∧ '/' ∉ config.build.extension.toList ∧
    '.' ∉ config.build.extension.toList

instance : DecidablePred Plain := fun config =>
  decidable_of_iff (IsName config.build.layouts ∧ IsName config.build.posts ∧
    '/' ∉ config.build.tagLayout.toList ∧ config.build.extension ≠ "" ∧
    '/' ∉ config.build.extension.toList ∧ '.' ∉ config.build.extension.toList)
    ⟨fun h => ⟨h.1, h.2.1, h.2.2.1, h.2.2.2⟩, fun h => ⟨h.1, h.2, h.3, h.4⟩⟩

theorem forCommand_of_isInit (hinit : line.command.isInit = true)
    (h : forCommand disk line = .ok config) :
    config = ({} : SiteConfig).resolve disk line ∧
      disk.exists_ (join config.root line.config) = false := by
  unfold forCommand at h
  dsimp only at h
  rw [if_pos hinit, pure_bind] at h
  obtain ⟨_, hvalid, hconfig⟩ := exists_of_bind_eq_ok h
  cases hconfig
  refine ⟨rfl, ?_⟩
  obtain ⟨_, -, hchecks⟩ := exists_of_bind_eq_ok hvalid
  rw [if_pos hinit] at hchecks
  split at hchecks
  · cases hchecks
  · rename_i hnone
    exact Bool.eq_false_iff.mpr hnone

section NewSite

variable {name : Option String} (hcurrent : ∀ name ∈ disk.current, IsName name)
  (hcommand : line.command = .init name)
  (hdown : ∀ path ∈ line.sitePaths, Component.parent ∉ components path)
  (hconfig : forCommand disk line = .ok config)

include hcurrent hcommand hdown hconfig

theorem parent_not_mem_root : Component.parent ∉ moves config.root := by
  obtain ⟨rfl, -⟩ := forCommand_of_isInit (by rw [hcommand]; rfl) hconfig
  have hbase : Component.parent ∉ moves (line.root.getD "./") := by
    cases hroot : line.root with
    | none => decide
    | some root =>
      rw [Option.getD_some, ← parent_mem_components_iff]
      exact hdown root (by simp [CommandLine.sitePaths, hroot])
  refine parent_not_mem_normalize hcurrent ?_
  unfold rootFor
  cases name with
  | none =>
    rw [hcommand]
    exact hbase
  | some name =>
    rw [hcommand]
    refine parent_not_mem_join hbase ?_
    rw [← parent_mem_components_iff]
    exact hdown name (by simp [CommandLine.sitePaths, hcommand])

theorem missing_configPath : disk.Missing config.configPath := by
  have hroot := parent_not_mem_root hcurrent hcommand hdown hconfig
  obtain ⟨rfl, hnothing⟩ := forCommand_of_isInit (by rw [hcommand]; rfl) hconfig
  have habsolute : isAbsolute
      (join (({} : SiteConfig).resolve disk line).root line.config) = true :=
    isAbsolute_join_of_dir (isAbsolute_normalize disk _) line.config
  have hpath : (({} : SiteConfig).resolve disk line).configPath =
      join (({} : SiteConfig).resolve disk line).root line.config :=
    normalize_of_missing habsolute hnothing
  have hname := hdown line.config List.mem_cons_self
  rw [parent_mem_components_iff] at hname
  rw [hpath]
  exact ⟨ne_empty_of_isAbsolute habsolute, parent_not_mem_join hroot hname, hnothing⟩

theorem parent_not_mem_templates : Component.parent ∉ moves config.build.templates := by
  have hroot := parent_not_mem_root hcurrent hcommand hdown hconfig
  obtain ⟨rfl, -⟩ := forCommand_of_isInit (by rw [hcommand]; rfl) hconfig
  refine parent_not_mem_normalize hcurrent (parent_not_mem_join hroot ?_)
  rw [withOptions, hcommand]
  dsimp only
  cases htemplates : line.templates with
  | none => decide
  | some templates =>
    rw [Option.getD_some, ← parent_mem_components_iff]
    exact hdown templates (by simp [CommandLine.sitePaths, htemplates])

/-- The templates of a new site are missing if nothing is where they go. -/
theorem missing_templates (hnothing : disk.exists_ config.build.templates = false) :
    disk.Missing config.build.templates := by
  refine ⟨?_, parent_not_mem_templates hcurrent hcommand hdown hconfig, hnothing⟩
  obtain ⟨rfl, -⟩ := forCommand_of_isInit (by rw [hcommand]; rfl) hconfig
  exact ne_empty_of_isAbsolute (isAbsolute_normalize disk _)

omit hcurrent hdown in
/-- The names below the templates are those of the defaults. -/
theorem plain_of_new : config.Plain := by
  obtain ⟨rfl, -⟩ := forCommand_of_isInit (by rw [hcommand]; rfl) hconfig
  rw [resolve, withOptions, hcommand]
  have hdefault : ({} : SiteConfig).Plain := by decide
  exact ⟨hdefault.layouts, hdefault.posts, hdefault.tagLayout, hdefault.extension⟩

end NewSite

end SiteConfig
end LayeredSite
