import LayeredSite.Proofs.Build.Starting
import LayeredSite.Proofs.Config.Rooted

namespace LayeredSite

open LayeredSite.Path

namespace Starter

variable {config : SiteConfig} {clock : Clock} {named : Bool} {d m made : Disk} {now : Int}
  {file : String × String} {name : String}
  {steps steps' : List (Disk → Except StarterError Unit × Disk)}

theorem exists_of_runSteps_cons {step : Disk → Except StarterError Unit × Disk}
    (h : runSteps d (step :: steps) = (.ok (), made)) :
    ∃ m, step d = (.ok (), m) ∧ runSteps m steps = (.ok (), made) := by
  rw [runSteps] at h
  split at h
  · rename_i m hstep
    exact ⟨m, hstep, h⟩
  · cases h

theorem exists_of_runSteps_append (h : runSteps d (steps ++ steps') = (.ok (), made)) :
    ∃ m, runSteps d steps = (.ok (), m) ∧ runSteps m steps' = (.ok (), made) := by
  induction steps generalizing d with
  | nil => exact ⟨d, rfl, h⟩
  | cons step rest ih =>
    obtain ⟨between, hstep, h⟩ := exists_of_runSteps_cons h
    obtain ⟨m, hrest, hmade⟩ := ih h
    refine ⟨m, ?_, hmade⟩
    rw [runSteps, hstep]
    exact hrest

/-- What every step keeps is kept in a run. -/
theorem kept_of_runSteps {P : Disk → Prop}
    (hsteps : ∀ step ∈ steps, ∀ d m, P d → step d = (.ok (), m) → P m) (hd : P d)
    (h : runSteps d steps = (.ok (), made)) : P made := by
  induction steps generalizing d with
  | nil =>
    cases h
    exact hd
  | cons step rest ih =>
    obtain ⟨hfirst, hrest⟩ := List.forall_mem_cons.mp hsteps
    obtain ⟨m, hstep, h⟩ := exists_of_runSteps_cons h
    exact ih hrest (hfirst d m hd hstep) h

theorem of_writeFile (h : writeFile now d file = (.ok (), m)) :
    d.Keeps (d.place file.1) m ∧ m.locate file.1 = .ok (d.place file.1) ∧
      m.read file.1 = .ok file.2 := by
  rw [writeFile, Output.put] at h
  cases hwrite : Output.write d file.1 file.2 now with
  | error e =>
    rw [hwrite] at h
    cases h
  | ok m' =>
    rw [hwrite] at h
    cases h
    obtain ⟨names, hpath, hkeeps, hread⟩ := Output.write_eq_ok hwrite
    obtain rfl : names = d.place file.1 := by
      rw [Disk.place_of_locate hpath, Disk.place_eq_of_current hkeeps.current]
    exact ⟨hkeeps, hpath, hread⟩

/-- A list of ignored files is written where nothing was, if it is written at all. -/
theorem of_writeIgnore (h : writeIgnore config now d name = (.ok (), m)) :
    m.exists_ (join config.root name) = true ∧
      (m = d ∨ ∃ place, d.Keeps place m ∧ ∀ n, d.root.get place ≠ .ok n) := by
  unfold writeIgnore at h
  dsimp only at h
  split at h
  · rename_i hthere
    cases h
    exact ⟨hthere, .inl rfl⟩
  · rename_i hnothing
    split at h
    · rename_i hwrite
      cases h
      obtain ⟨names, hpath, hkeeps, hread⟩ := Disk.write_eq_ok hwrite
      obtain ⟨time, hfile⟩ := (Disk.read_eq_ok_iff (hkeeps.locate hpath)).mp hread
      exact ⟨Disk.exists_eq_true_iff.mpr ⟨names, _, hkeeps.locate hpath, hfile⟩, .inr ⟨names,
        hkeeps, fun n hn => hnothing (Disk.exists_eq_true_iff.mpr ⟨names, n, hpath, hn⟩)⟩⟩
    · cases h

def siteSteps (config : SiteConfig) (clock : Clock) :
    List (Disk → Except StarterError Unit × Disk) :=
  (files config clock.today).map (fun file d => writeFile clock.now d file) ++
    ignoreFiles.map fun name d => writeIgnore config clock.now d name

theorem runSteps_of_make (h : make config named clock d = (.ok (), made)) :
    runSteps d (siteSteps config clock) = (.ok (), made) := by
  unfold make at h
  split at h
  · cases h
  · exact h

/-- In a part of the steps paths go on leading where they led. -/
theorem later_of_runSteps (config : SiteConfig) (clock : Clock)
    (hsteps : steps ⊆ siteSteps config clock)
    (h : runSteps d steps = (.ok (), made)) : made.current = d.current ∧
      ∀ path names, d.locate path = .ok names → made.locate path = .ok names := by
  refine kept_of_runSteps (P := fun m => m.current = d.current ∧
    ∀ path names, d.locate path = .ok names → m.locate path = .ok names) ?_
    ⟨rfl, fun _ _ => id⟩ h
  intro step hstep m m' ⟨hcurrent, hlocate⟩ hrun
  have hkept {other : List String} (hkeeps : m.Keeps other m') : m'.current = d.current ∧
      ∀ path names, d.locate path = .ok names → m'.locate path = .ok names :=
    ⟨hkeeps.current.trans hcurrent, fun path names h => hkeeps.locate (hlocate path names h)⟩
  rcases List.mem_append.mp (hsteps hstep) with hfile | hignore
  · obtain ⟨file, -, rfl⟩ := List.mem_map.mp hfile
    exact hkept (of_writeFile hrun).1
  · obtain ⟨name, -, rfl⟩ := List.mem_map.mp hignore
    obtain ⟨-, rfl | ⟨other, hkeeps, -⟩⟩ := of_writeIgnore hrun
    · exact ⟨hcurrent, hlocate⟩
    · exact hkept hkeeps

/-- A file stays in its place while no other is written there. -/
structure Holds (place : List String) (file : String × String) (d m : Disk) : Prop where
  current : m.current = d.current
  locate : m.locate file.1 = .ok place
  read : m.read file.1 = .ok file.2

section Steps

variable {place : List String}

theorem Holds.keeps (h : Holds place file d m) {m' : Disk} {other : List String}
    (hkeeps : m.Keeps other m') (hother : other ≠ place) : Holds place file d m' :=
  ⟨hkeeps.current.trans h.current, hkeeps.locate h.locate,
    hkeeps.read h.locate hother.symm h.read⟩

theorem Holds.writeFile (h : Holds place file d m) {m' : Disk} {later : String × String}
    (hlater : d.place later.1 ≠ place)
    (hstep : Starter.writeFile now m later = (.ok (), m')) : Holds place file d m' := by
  refine h.keeps (of_writeFile hstep).1 ?_
  rwa [Disk.place_eq_of_current h.current]

theorem Holds.writeIgnore (h : Holds place file d m) {m' : Disk}
    (hstep : Starter.writeIgnore config now m name = (.ok (), m')) : Holds place file d m' := by
  obtain ⟨-, rfl | ⟨other, hkeeps, hnothing⟩⟩ := of_writeIgnore hstep
  · exact h
  · refine h.keeps hkeeps ?_
    rintro rfl
    obtain ⟨time, hfile⟩ := (Disk.read_eq_ok_iff h.locate).mp h.read
    exact hnothing _ hfile

end Steps

section Made

variable (hmade : make config named clock d = (.ok (), made))

include hmade

theorem later_of_make : made.current = d.current ∧
    ∀ path names, d.locate path = .ok names → made.locate path = .ok names :=
  later_of_runSteps config clock (List.Subset.refl _) (runSteps_of_make hmade)

/-- The steps up to the one that writes a file, and those behind it. -/
theorem runs_of_make {before after : List (String × String)}
    (hfiles : files config clock.today = before ++ file :: after) :
    ∃ m m', m.current = d.current ∧ writeFile clock.now m file = (.ok (), m') ∧
      runSteps m' (after.map (fun file d => writeFile clock.now d file) ++
        ignoreFiles.map fun name d => writeIgnore config clock.now d name) = (.ok (), made) := by
  have hrun := runSteps_of_make hmade
  rw [siteSteps, hfiles, List.map_append, List.map_cons, List.append_assoc] at hrun
  obtain ⟨m, hbefore, hrun⟩ := exists_of_runSteps_append hrun
  obtain ⟨m', hwrite, hrun⟩ := exists_of_runSteps_cons hrun
  refine ⟨m, m', (later_of_runSteps config clock ?_ hbefore).1, hwrite, hrun⟩
  rw [siteSteps, hfiles, List.map_append, List.append_assoc]
  exact List.subset_append_left _ _

/-- The last file that is written in a place is there in the end. -/
theorem holds_of_make (file : String × String) {before after : List (String × String)}
    (hfiles : files config clock.today = before ++ file :: after)
    (hlast : ∀ later ∈ after, d.place later.1 ≠ d.place file.1) :
    Holds (d.place file.1) file d made := by
  obtain ⟨m, m', hcurrent, hwrite, hrun⟩ := runs_of_make hmade hfiles
  obtain ⟨hkeeps, hlocate, hread⟩ := of_writeFile hwrite
  rw [Disk.place_eq_of_current hcurrent] at hlocate
  refine kept_of_runSteps (P := Holds (d.place file.1) file d) ?_
    ⟨hkeeps.current.trans hcurrent, hlocate, hread⟩ hrun
  intro step hstep m m' hholds hrun
  rcases List.mem_append.mp hstep with hafter | hignore
  · obtain ⟨later, hlater, rfl⟩ := List.mem_map.mp hafter
    exact hholds.writeFile (hlast later hlater) hrun
  · obtain ⟨name, -, rfl⟩ := List.mem_map.mp hignore
    exact hholds.writeIgnore hrun

theorem locate_of_make (file : String × String) (hfile : file ∈ files config clock.today) :
    made.locate file.1 = .ok (d.place file.1) := by
  obtain ⟨before, after, hfiles⟩ := List.append_of_mem hfile
  obtain ⟨m, m', hcurrent, hwrite, hrun⟩ := runs_of_make hmade hfiles
  have hlocate := (of_writeFile hwrite).2.1
  rw [Disk.place_eq_of_current hcurrent] at hlocate
  refine (later_of_runSteps config clock ?_ hrun).2 _ _ hlocate
  rw [siteSteps, hfiles, List.map_append, List.map_cons, List.append_assoc]
  exact List.subset_append_of_subset_right _ (List.subset_cons_self _ _)

/-- The root is a directory, since the last list of ignored files is in it. -/
theorem root_of_make (hroot : config.root ≠ "") : ∃ above entries,
    made.locate config.root = .ok above ∧ made.root.get above = .ok (.dir entries) := by
  have hrun := runSteps_of_make hmade
  rw [siteSteps, show ignoreFiles = [".gitignore"] ++ [".ignore"] from rfl, List.map_append,
    ← List.append_assoc] at hrun
  obtain ⟨m, -, hrun⟩ := exists_of_runSteps_append hrun
  obtain ⟨m', hstep, hrun⟩ := exists_of_runSteps_cons hrun
  cases hrun
  obtain ⟨names, -, hnames, -⟩ := Disk.exists_eq_true_iff.mp (of_writeIgnore hstep).1
  obtain ⟨above, entries, habove, hthere, -⟩ := Disk.locate_join hroot (by decide) hnames
  exact ⟨above, entries, habove, hthere⟩

end Made

end Starter
end LayeredSite
