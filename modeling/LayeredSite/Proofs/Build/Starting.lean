import LayeredSite.Build.Starter
import LayeredSite.Proofs.Config.Resolved
import LayeredSite.Proofs.Date.ReadBack

namespace LayeredSite

open LayeredSite.Path

/-- Whether no site was begun: the directory is not empty, or the templates are there. -/
def StarterError.isRefusal : StarterError → Bool
  | notEmpty => true
  | alreadyThere _ => true
  | output _ => false
  | disk _ => false

namespace Starter

variable {config : SiteConfig} {disk d : Disk} {now : Int}

theorem slash_not_mem_format (date : Date) : '/' ∉ date.format.toList := by
  rw [Date.format, String.toList_ofList]
  intro hmem
  have hslash := Date.of_mem_formatChars hmem
  revert hslash
  decide

/-- A stem and a plain extension are a name: its last character is no dot. -/
theorem isName_file {stem extension : String} (hstem : '/' ∉ stem.toList)
    (hempty : extension ≠ "") (hslash : '/' ∉ extension.toList) (hdot : '.' ∉ extension.toList) :
    IsName (stem ++ "." ++ extension) := by
  obtain ⟨before, c, hc⟩ := (List.eq_nil_or_concat' extension.toList).resolve_left
    fun he => hempty (String.toList_injective he)
  have hlast : (stem ++ "." ++ extension).toList.getLast? = some c := by
    rw [String.toList_append, hc, ← List.append_assoc, List.getLast?_concat]
  have hne {other : String} (hother : other.toList.getLast? ≠ some c) :
      stem ++ "." ++ extension ≠ other := fun he => hother (he ▸ hlast)
  have hend : some '.' ≠ some c := by
    rintro he
    rw [hc, Option.some.inj he] at hdot
    exact hdot List.mem_concat_self
  exact ⟨hne nofun, hne hend, hne hend, by simp [hstem, hslash]⟩

/-- Every file of a new site goes where nothing is. -/
theorem missing_of_mem_files (today : Date) (hplain : config.Plain)
    (hconfig : disk.Missing config.configPath) (htemplates : disk.Missing config.build.templates) :
    ∀ file ∈ files config today, disk.Missing file.1 := by
  have hlayouts : disk.Missing config.layoutsDir := htemplates.join hplain.layouts
  have hposts : disk.Missing config.postsDir := htemplates.join hplain.posts
  have hfile {dir stem : String} (hdir : disk.Missing dir) (hstem : '/' ∉ stem.toList) :
      disk.Missing (join dir (stem ++ "." ++ config.build.extension)) := by
    obtain ⟨hempty, hslash, hdot⟩ := hplain.extension
    exact hdir.join (isName_file hstem hempty hslash hdot)
  have hfirst : '/' ∉ (today.format ++ "-hello").toList := by simp [slash_not_mem_format]
  unfold files
  simp only [List.forall_mem_cons]
  exact ⟨hconfig, hfile hlayouts (by decide), hfile hlayouts (by decide),
    hfile hlayouts hplain.tagLayout, hfile htemplates (by decide), hfile htemplates (by decide),
    hfile hposts hfirst, fun _ hmem => absurd hmem List.not_mem_nil⟩

/-- What steps leave of a disk when they end: it has only grown, and where they failed, that was no
refusal. -/
structure Adds (disk : Disk) (r : Except StarterError Unit × Disk) : Prop where
  grows : disk.Grows r.2
  begun : ∀ e, r.1 = .error e → e.isRefusal = false

theorem adds_writeFile {file : String × String} (hmissing : disk.Missing file.1)
    (h : disk.Grows d) : Adds disk (writeFile now d file) := by
  rw [writeFile, Output.put]
  cases hwrite : Output.write d file.1 file.2 now with
  | ok d' =>
    refine ⟨Output.grows_write hmissing h hwrite, fun e he => ?_⟩
    cases he
  | error e =>
    refine ⟨h.trans (Output.grows_left d file.1), fun e he => ?_⟩
    cases he
    rfl

theorem adds_writeIgnore (config : SiteConfig) (name : String) (h : disk.Grows d) :
    Adds disk (writeIgnore config now d name) := by
  unfold writeIgnore
  dsimp only
  split
  · exact ⟨h, nofun⟩
  · rename_i hnothing
    split
    · rename_i d' hwrite
      exact ⟨h.write (Bool.eq_false_iff.mpr hnothing) hwrite, nofun⟩
    · refine ⟨h, fun e he => ?_⟩
      cases he
      rfl

/-- Steps that only add go on from disks that have grown, and end on one wherever they do. -/
theorem adds_runSteps {steps : List (Disk → Except StarterError Unit × Disk)}
    (hsteps : ∀ step ∈ steps, ∀ d, disk.Grows d → Adds disk (step d)) (h : disk.Grows d) :
    Adds disk (runSteps d steps) := by
  induction steps generalizing d with
  | nil => exact ⟨h, nofun⟩
  | cons step rest ih =>
    obtain ⟨hstep, hrest⟩ := List.forall_mem_cons.mp hsteps
    have hnext := hstep d h
    rw [runSteps]
    split
    · rename_i d' hrun
      rw [hrun] at hnext
      exact ih hrest hnext.grows
    · rename_i e d' hrun
      rwa [hrun] at hnext

theorem nothing_of_refuse {named : Bool} (h : refuse config named disk = .ok ()) :
    disk.exists_ config.build.templates = false := by
  by_contra hthere
  unfold refuse at h
  rw [(Bool.not_eq_false _).mp hthere] at h
  cases named with
  | true => cases h
  | false =>
    obtain ⟨empty, -, h⟩ := exists_of_bind_eq_ok h
    cases empty <;> cases h

/-- A site is refused at once, or steps that only add are taken. -/
theorem make_cases (named : Bool) (clock : Clock) (hplain : config.Plain)
    (hpath : disk.Missing config.configPath)
    (htemplates : disk.exists_ config.build.templates = false →
      disk.Missing config.build.templates) :
    (make config named clock disk).2 = disk ∨ Adds disk (make config named clock disk) := by
  unfold make
  cases hrefuse : refuse config named disk with
  | error e => exact .inl rfl
  | ok _ =>
    have hmissing := missing_of_mem_files clock.today hplain hpath
      (htemplates (nothing_of_refuse hrefuse))
    refine .inr (adds_runSteps (fun step hstep d h => ?_) (.refl disk))
    rcases List.mem_append.mp hstep with hfile | hignore
    · obtain ⟨file, hmem, rfl⟩ := List.mem_map.mp hfile
      exact adds_writeFile (hmissing file hmem) h
    · obtain ⟨name, -, rfl⟩ := List.mem_map.mp hignore
      exact adds_writeIgnore config name h

/-- Making a site keeps every file, also if it fails half way, and a site that is refused leaves the
disk as it is. Without the condition on `..` a path may lead to a file once directories are made. -/
theorem make_keeps_files {line : CommandLine} {name : Option String} (clock : Clock)
    (hcurrent : ∀ name ∈ disk.current, IsName name) (hcommand : line.command = .init name)
    (hdown : ∀ path ∈ line.sitePaths, Component.parent ∉ components path)
    (hconfig : SiteConfig.forCommand disk line = .ok config) :
    (∀ names text time, disk.root.get names = .ok (.file text time) →
        (make config name.isSome clock disk).2.root.get names = .ok (.file text time)) ∧
      ∀ e, (make config name.isSome clock disk).1 = .error e → e.isRefusal = true →
        (make config name.isSome clock disk).2 = disk := by
  have hcases := make_cases name.isSome clock
    (SiteConfig.plain_of_new hcommand hconfig)
    (SiteConfig.missing_configPath hcurrent hcommand hdown hconfig)
    (SiteConfig.missing_templates hcurrent hcommand hdown hconfig)
  refine ⟨fun names text time hfile => ?_, fun e herror hrefusal => ?_⟩
  · rcases hcases with hsame | hadds
    · rwa [hsame]
    · exact hadds.grows.file hfile
  · rcases hcases with hsame | hadds
    · exact hsame
    · rw [hadds.begun e herror] at hrefusal
      cases hrefusal

def notesDisk : Disk :=
  ⟨.dir [("home", .dir [("blog", .dir [(".gitignore", .file "drafts" 1)]),
    ("notes.txt", .file "mine" 2)])], ["home"]⟩

def blogLine : CommandLine := { command := .init (some "blog"), templates := some "pages" }

theorem make_keeps_ignored : ∃ config, SiteConfig.forCommand notesDisk blogLine = .ok config ∧
    (make config true ⟨3, Date.epoch⟩ notesDisk).1.toOption = some () ∧
    (make config true ⟨3, Date.epoch⟩ notesDisk).2.root.get ["home", "blog", ".gitignore"] =
      .ok (.file "drafts" 1) := by
  have hrun : (SiteConfig.forCommand notesDisk blogLine).toOption.map (fun config =>
      (make config true ⟨3, Date.epoch⟩ notesDisk).1.toOption) = some (some ()) := by
    decide +kernel
  cases hconfig : SiteConfig.forCommand notesDisk blogLine with
  | error e =>
    rw [hconfig] at hrun
    cases hrun
  | ok config =>
    rw [hconfig] at hrun
    have hkept := (make_keeps_files ⟨3, Date.epoch⟩ (by decide) rfl (by decide) hconfig).1
    exact ⟨config, rfl, Option.some.inj hrun, hkept _ _ _ rfl⟩

end Starter
end LayeredSite
