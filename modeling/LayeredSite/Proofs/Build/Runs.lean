import LayeredSite.Program
import LayeredSite.Proofs.Build.Turns
import LayeredSite.Proofs.Disk.Steps

namespace LayeredSite

namespace Builder

variable {α β : Type} {b : Builder} {site : Site} {w : Workshop}

/-- A part of a build that changes the disk by its operations. -/
def Walks (x : Building α) : Prop := ∀ w : Workshop, w.disk.Reaches (x w).2.disk

namespace Walks

theorem result (a : α) : Walks (pure a) := fun _ => .refl

theorem say (channel message : String) : Walks (Building.say channel message) := fun _ => .refl

theorem next {x : Building α} {f : α → Building β} (hx : Walks x) (hf : ∀ a, Walks (f a)) :
    Walks (x >>= f) :=
  fun w => (hx w).trans (hf (x w).1 (x w).2)

/-- A part of a build that begins by looking at what there is. -/
theorem look {f : Workshop → Building α} (hf : ∀ w, Walks (f w)) : Walks (get >>= f) :=
  fun w => hf w w

theorem makeUnit (name : String) (x : Paging Page) : Walks (b.makeUnit name x) := by
  intro w
  rw [makeUnit_apply]
  rcases (x.run w.cells).1 with e | page
  · exact .refl
  · have hput := Output.reaches_put w.disk page.path page.text b.clock.now
    rw [Output.put] at hput
    rw [attempt_ok]
    dsimp only
    cases hwrite : Output.write w.disk page.path page.text b.clock.now with
    | ok disk => rwa [hwrite] at hput
    | error e => rwa [hwrite] at hput

theorem rules : BuildRules Walks := ⟨result, say, next, look, fun _ => makeUnit⟩

variable [Toolkit]

theorem loadSite : Walks b.loadSite := fun _ => .refl

theorem build : Walks b.build := by
  intro w
  cases hleft : b.cleared w.disk with
  | error e => rw [build_of_not_cleared hleft]
  | ok left =>
    have hcleared : w.disk.Reaches left := by
      unfold cleared at hleft
      split at hleft
      · exact Output.reaches_of_clear hleft
      · cases hleft
        exact .refl
    obtain ⟨log, hbuild⟩ := build_apply hleft
    rw [hbuild]
    exact hcleared.trans <| (loadSite.next fun _ => (rules.makeTemplates b _).next fun _ =>
      (rules.makeTags b _).next fun _ => (say _ _).next fun _ => result _)
        { w with disk := left, log }

theorem compileTemplate (path : String) : Walks (b.compileTemplate path) := by
  refine loadSite.next fun site => ?_
  dsimp only
  split
  · split
    · exact look fun _ => makeUnit _ _
    · exact result false
  · exact look fun _ => makeUnit _ _

theorem compileTag (name : String) : Walks (b.compileTag name) :=
  loadSite.next fun _ => look fun _ => makeUnit _ _

theorem evaluate (text : String) : Walks (b.evaluate text) := by
  unfold Builder.evaluate
  split
  · exact result _
  · exact loadSite.next fun _ _ => .refl

end Walks

end Builder

namespace Starter

variable {d : Disk}

theorem reaches_writeIgnore (config : SiteConfig) (now : Int) (d : Disk) (name : String) :
    d.Reaches (writeIgnore config now d name).2 := by
  unfold writeIgnore
  dsimp only
  split
  · exact .refl
  · split
    · rename_i hwrite
      exact .single (.write hwrite)
    · exact .refl

theorem reaches_runSteps {steps : List (Disk → Except StarterError Unit × Disk)}
    (h : ∀ step ∈ steps, ∀ d : Disk, d.Reaches (step d).2) (d : Disk) :
    d.Reaches (runSteps d steps).2 := by
  induction steps generalizing d with
  | nil => exact .refl
  | cons step rest ih =>
    obtain ⟨hstep, hrest⟩ := List.forall_mem_cons.mp h
    have hfirst := hstep d
    rw [runSteps]
    split
    · rename_i m hm
      rw [hm] at hfirst
      exact hfirst.trans (ih hrest m)
    · rename_i e m hm
      rwa [hm] at hfirst

theorem reaches_make (config : SiteConfig) (named : Bool) (clock : Clock) (d : Disk) :
    d.Reaches (make config named clock d).2 := by
  unfold make
  split
  · exact .refl
  · refine reaches_runSteps (fun step hstep d => ?_) d
    rcases List.mem_append.mp hstep with hfile | hignore
    · obtain ⟨file, -, rfl⟩ := List.mem_map.mp hfile
      exact Output.reaches_put d file.1 file.2 clock.now
    · obtain ⟨name, -, rfl⟩ := List.mem_map.mp hignore
      exact reaches_writeIgnore config clock.now d name

end Starter

namespace Program

open Builder

theorem disk_ended {α : Type} (show_ : α → Bool × List String)
    (r : Except BuildError α × Workshop) : (ended show_ r).disk = r.2.disk := by
  unfold ended
  split <;> rfl

theorem reaches_perform (disk : Disk) (clock : Clock) (config : SiteConfig) (command : Command) :
    disk.Reaches (perform disk clock config command).disk := by
  cases command with
  | init name =>
    have hmade := Starter.reaches_make config name.isSome clock disk
    unfold perform makeSite
    dsimp only
    split
    · rename_i d hmake
      rwa [hmake] at hmade
    · rename_i e d hmake
      rwa [hmake] at hmade
  | build _ _ =>
    unfold perform
    rw [disk_ended]
    exact Walks.build ⟨disk, [], []⟩
  | template path => exact Walks.compileTemplate path ⟨disk, [], []⟩
  | tag name => exact Walks.compileTag name ⟨disk, [], []⟩
  | eval text =>
    unfold perform
    rw [disk_ended]
    exact Walks.evaluate text ⟨disk, [], []⟩

/-- A run makes directories, writes files and removes directories, one after another. -/
theorem reaches_run (disk : Disk) (clock : Clock) (args : List String) :
    disk.Reaches (run disk clock args).disk := by
  unfold run
  split
  · rename_i e _
    cases e <;> exact .refl
  · split
    · exact .refl
    · exact reaches_perform disk clock _ _

theorem proper_run {disk : Disk} (h : disk.Proper) (clock : Clock) (args : List String) :
    (run disk clock args).disk.Proper :=
  h.reaches (reaches_run disk clock args)

end Program
end LayeredSite
