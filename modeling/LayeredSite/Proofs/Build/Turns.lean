import LayeredSite.Build.Basic
import LayeredSite.Proofs.Disk.Writing
import LayeredSite.Proofs.Fields

namespace LayeredSite

namespace Building

variable {α β : Type} {w w' : Workshop}

theorem bind_apply (x : Building α) (f : α → Building β) (w : Workshop) :
    (x >>= f) w = (f (x w).1 (x w).2) := rfl

theorem get_apply (w : Workshop) : (get : Building Workshop) w = (w, w) := rfl

/-- Two parts of a build, one after the other. -/
theorem two_apply {x y : Building Bool} {f : Bool → Bool → α} {a : α}
    (h : (do
      let ok ← x
      let more ← y
      return f ok more : Building α) w = (a, w')) :
    ∃ ok between more, x w = (ok, between) ∧ y between = (more, w') ∧ f ok more = a := by
  obtain ⟨ha, hw⟩ := Prod.mk.inj h
  exact ⟨(x w).1, (x w).2, (y (x w).2).1, rfl, Prod.ext rfl hw, ha⟩

end Building

/-- What units see and change; nothing reads the log. -/
abbrev Workshop.state (w : Workshop) : Disk × Cells := (w.disk, w.cells)

inductive Task
  | template (path : String)
  | post (post : Post)
  | tag (name : String)

namespace Task

def name : Task → String
  | template path => path
  | post p => p.source
  | tag name => Builder.tagUnit name

def page [Toolkit] (b : Builder) (site : Site) (disk : Disk) : Task → Paging Page
  | template path => b.templatePage disk site path
  | post p => b.postPage disk site p
  | tag name => b.tagPage disk site name

end Task

namespace Builder

def attempt (b : Builder) (name : String) (page : Except BuildError Page) : Building Bool := do
  let written ← match page with
    | .ok page => b.writePage page
    | .error e => pure (.error e)
  match written with
  | .ok () => return true
  | .error e =>
    Building.say "error" (name ++ ": " ++ e.report)
    return false

/-- The turn of a unit: its page is computed, and then attempted. -/
structure Turn where
  task : Task
  page : Except BuildError Page
  before : Workshop
  ok : Bool
  after : Workshop

variable {b : Builder} {site : Site} {w w' : Workshop} {s t u : Disk × Cells} {turn : Turn}
  {turns turns' : List Turn} {task : Task} {ok : Bool}

theorem writePage_apply (b : Builder) (page : Page) (w : Workshop) :
    b.writePage page w = match Output.write w.disk page.path page.text b.clock.now with
      | .ok disk => (.ok (), { w with disk })
      | .error e => (.error e, { w with disk := Output.left w.disk page.path }) := by
  have hput : b.writePage page w =
      ((Output.put w.disk page.path page.text b.clock.now).1,
        { w with disk := (Output.put w.disk page.path page.text b.clock.now).2 }) := rfl
  rw [hput, Output.put]
  cases Output.write w.disk page.path page.text b.clock.now with
  | ok disk => rfl
  | error e => rfl

def failure (name : String) (e : BuildError) : LogLine := ⟨"error", name ++ ": " ++ e.report⟩

/-- A unit without a page leaves everything but the log as it is. -/
theorem attempt_error (b : Builder) (name : String) (e : BuildError) (w : Workshop) :
    b.attempt name (.error e) w = (false, { w with log := w.log ++ [failure name e] }) := rfl

theorem attempt_ok (b : Builder) (name : String) (page : Page) (w : Workshop) :
    b.attempt name (.ok page) w =
      match Output.write w.disk page.path page.text b.clock.now with
      | .ok disk => (true, { w with disk })
      | .error e => (false, { w with
          disk := Output.left w.disk page.path
          log := w.log ++ [failure name e] }) := by
  rw [attempt, Building.bind_apply]
  dsimp only
  rw [writePage_apply]
  cases Output.write w.disk page.path page.text b.clock.now with
  | ok disk => rfl
  | error e => rfl

theorem attempt_cells (b : Builder) (name : String) (page : Except BuildError Page)
    (w : Workshop) : (b.attempt name page w).2.cells = w.cells := by
  cases page with
  | error e => rfl
  | ok page =>
    rw [attempt_ok]
    cases Output.write w.disk page.path page.text b.clock.now <;> rfl

def Written (b : Builder) (turn : Turn) : Prop :=
  ∃ page, turn.page = .ok page ∧
    Output.write turn.before.disk page.path page.text b.clock.now = .ok turn.after.disk

theorem makeUnit_apply (b : Builder) (name : String) (x : Paging Page) (w : Workshop) :
    b.makeUnit name x w =
      b.attempt name (x.run w.cells).1 { w with cells := (x.run w.cells).2 } := rfl

def Logs {α : Type} (x : Building α) : Prop := ∀ w : Workshop, w.log <+: (x w).2.log

namespace Logs

variable {α β : Type}

theorem result (a : α) : Logs (pure a) := fun _ => List.prefix_rfl

theorem say (channel message : String) : Logs (Building.say channel message) :=
  fun _ => List.prefix_append _ _

theorem next {x : Building α} {f : α → Building β} (hx : Logs x) (hf : ∀ a, Logs (f a)) :
    Logs (x >>= f) :=
  fun w => (hx w).trans (hf (x w).1 (x w).2)

/-- A part of a build that begins by looking at what there is. -/
theorem look {f : Workshop → Building α} (hf : ∀ w, Logs (f w)) : Logs (get >>= f) :=
  fun w => hf w w

theorem makeUnit (name : String) (x : Paging Page) : Logs (b.makeUnit name x) := by
  intro w
  rw [makeUnit_apply]
  rcases (x.run w.cells).1 with e | page
  · exact List.prefix_append _ _
  · rw [attempt_ok]
    cases Output.write w.disk page.path page.text b.clock.now with
    | ok disk => exact List.prefix_rfl
    | error e => exact List.prefix_append _ _

end Logs

/-- A property of parts of a build that single steps have, and two after one another if both have
it. -/
structure BuildRules (Rule : ∀ {α : Type}, Building α → Prop) : Prop where
  result : ∀ {α : Type} (a : α), Rule (pure a : Building α)
  say : ∀ channel message, Rule (Building.say channel message)
  next : ∀ {α β : Type} {x : Building α} {f : α → Building β}, Rule x → (∀ a, Rule (f a)) →
    Rule (x >>= f)
  look : ∀ {α : Type} {f : Workshop → Building α}, (∀ w, Rule (f w)) → Rule (get >>= f)
  makeUnit : ∀ (b : Builder) (name : String) (x : Paging Page), Rule (b.makeUnit name x)

theorem Logs.rules : BuildRules Logs := ⟨result, say, next, look, fun _ => makeUnit⟩

namespace BuildRules

variable {α : Type} {Rule : ∀ {α : Type}, Building α → Prop}

theorem makeAll (h : BuildRules Rule) {make : α → Building Bool} (hmake : ∀ a, Rule (make a))
    (all : List α) : Rule (Builder.makeAll make all) := by
  induction all with
  | nil => exact h.result true
  | cons a rest ih => exact h.next (hmake a) fun _ => h.next ih fun _ => h.result _

variable [Toolkit]

theorem makeTemplates (h : BuildRules Rule) (b : Builder) (site : Site) :
    Rule (b.makeTemplates site) :=
  h.look fun _ => h.next (h.say _ _) fun _ =>
    h.next (h.makeAll (fun _ => h.look fun _ => h.makeUnit b _ _) _) fun _ =>
      h.next (h.makeAll (fun _ => h.look fun _ => h.makeUnit b _ _) _) fun _ => h.result _

theorem makeTagsFrom (h : BuildRules Rule) (claimed : List (String × String))
    (names : List String) : Rule (b.makeTagsFrom site claimed names) := by
  induction names generalizing claimed with
  | nil => exact h.result true
  | cons name rest ih =>
    rw [Builder.makeTagsFrom]
    split
    · exact h.next (h.say _ _) fun _ => h.next (ih _) fun _ => h.result false
    · exact h.next (h.look fun _ => h.makeUnit b _ _) fun _ => h.next (ih _) fun _ => h.result _

theorem makeTags (h : BuildRules Rule) (b : Builder) (site : Site) : Rule (b.makeTags site) := by
  unfold Builder.makeTags
  split
  · exact h.result true
  · exact h.next (h.say _ _) fun _ => h.makeTagsFrom _ _

end BuildRules

def cleared (b : Builder) (disk : Disk) : Except BuildError Disk :=
  if b.config.build.clean then Output.clear disk b.config.build.output else .ok disk

variable [Toolkit]

structure Takes (b : Builder) (site : Site) (s : Disk × Cells) (turn : Turn) : Prop where
  disk : turn.before.disk = s.1
  page : (turn.task.page b site s.1).run s.2 = (turn.page, turn.before.cells)
  attempt : b.attempt turn.task.name turn.page turn.before = (turn.ok, turn.after)

/-- Turns after one another, each from what the one before has left. -/
inductive Turns (b : Builder) (site : Site) : Disk × Cells → List Turn → Disk × Cells → Prop
  | nil (s : Disk × Cells) : Turns b site s [] s
  | cons {s t : Disk × Cells} {turn : Turn} {turns : List Turn} : b.Takes site s turn →
      Turns b site turn.after.state turns t → Turns b site s (turn :: turns) t

theorem Turns.append (h : b.Turns site s turns t) (h' : b.Turns site t turns' u) :
    b.Turns site s (turns ++ turns') u := by
  induction h with
  | nil => exact h'
  | cons hturn _ ih => exact .cons hturn (ih h')

theorem Turns.takes (h : b.Turns site s turns t) (hturn : turn ∈ turns) :
    ∃ s, b.Takes site s turn := by
  induction h with
  | nil => exact absurd hturn List.not_mem_nil
  | cons htakes _ ih =>
    rcases List.mem_cons.mp hturn with rfl | hturn
    · exact ⟨_, htakes⟩
    · exact ih hturn

/-- A unit succeeds if its page is computed and written. -/
theorem Takes.ok_iff (h : b.Takes site s turn) : turn.ok = true ↔ b.Written turn := by
  have hattempt := h.attempt
  unfold Written
  cases hpage : turn.page with
  | error e =>
    rw [hpage, attempt_error] at hattempt
    simp [← (Prod.mk.inj hattempt).1]
  | ok page =>
    rw [hpage, attempt_ok] at hattempt
    cases hwrite : Output.write turn.before.disk page.path page.text b.clock.now with
    | error e =>
      rw [hwrite] at hattempt
      simp [← (Prod.mk.inj hattempt).1, hwrite]
    | ok disk =>
      rw [hwrite] at hattempt
      obtain ⟨hok, hafter⟩ := Prod.mk.inj hattempt
      simp [← hok, ← hafter, hwrite]

/-- A unit with a page changes what writing the page changes, even if that fails. -/
theorem Takes.disk_of_ok (h : b.Takes site s turn) {page : Page} (hpage : turn.page = .ok page) :
    turn.after.disk =
      (Output.put turn.before.disk page.path page.text b.clock.now).2 := by
  have hattempt := h.attempt
  rw [hpage, attempt_ok] at hattempt
  rw [Output.put]
  cases hwrite : Output.write turn.before.disk page.path page.text b.clock.now with
  | error e =>
    rw [hwrite] at hattempt
    rw [← (Prod.mk.inj hattempt).2]
  | ok disk =>
    rw [hwrite] at hattempt
    rw [← (Prod.mk.inj hattempt).2]

/-- A unit without a page changes no file. -/
theorem Takes.disk_of_error (h : b.Takes site s turn) {e : BuildError}
    (he : turn.page = .error e) : turn.after.disk = turn.before.disk := by
  have hattempt := h.attempt
  rw [he, attempt_error] at hattempt
  rw [← (Prod.mk.inj hattempt).2]

theorem Takes.cells (h : b.Takes site s turn) : turn.after.cells = turn.before.cells := by
  have hcells := attempt_cells b turn.task.name turn.page turn.before
  rwa [h.attempt] at hcells

/-- A unit that is made takes its turn. -/
theorem turn_of_makeUnit (task : Task)
    (h : b.makeUnit task.name (task.page b site w.disk) w = (ok, w')) :
    ∃ turn : Turn, turn.task = task ∧ turn.ok = ok ∧ b.Turns site w.state [turn] w'.state := by
  rw [makeUnit_apply] at h
  let x := (task.page b site w.disk).run w.cells
  exact ⟨⟨task, x.1, { w with cells := x.2 }, ok, w'⟩, rfl, rfl, .cons ⟨rfl, rfl, h⟩ (.nil _)⟩

/-- The units of a list are taken in turn, and all must succeed. -/
theorem turns_of_makeAll {α : Type} {make : α → Building Bool} (taskOf : α → Task) (site : Site)
    (hmake : ∀ a w, make a w = b.makeUnit (taskOf a).name ((taskOf a).page b site w.disk) w)
    {all : List α} (h : makeAll make all w = (ok, w')) :
    ∃ turns, turns.map Turn.task = all.map taskOf ∧ b.Turns site w.state turns w'.state ∧
      (ok = true ↔ ∀ turn ∈ turns, turn.ok = true) := by
  induction all generalizing w ok with
  | nil =>
    cases h
    exact ⟨[], rfl, .nil _, by simp⟩
  | cons a rest ih =>
    obtain ⟨first, between, more, ha, hrest, rfl⟩ := Building.two_apply h
    rw [hmake] at ha
    obtain ⟨turn, hturn, hok, htakes⟩ := turn_of_makeUnit _ ha
    obtain ⟨turns, hturns, htake, hall⟩ := ih hrest
    refine ⟨turn :: turns, by rw [List.map_cons, List.map_cons, hturn, hturns],
      htakes.append htake, ?_⟩
    rw [Bool.and_eq_true, List.forall_mem_cons, hok, hall]

theorem turns_of_makeTemplates (h : b.makeTemplates site w = (ok, w')) :
    ∃ turns, turns.map Turn.task =
        (b.regularTemplates w.disk).map .template ++ site.posts.map .post ∧
      b.Turns site w.state turns w'.state ∧
      (ok = true ↔ site.failed = 0 ∧ ∀ turn ∈ turns, turn.ok = true) := by
  obtain ⟨log, hparts⟩ : ∃ log, (do
      let templatesOk ← makeAll (b.makeTemplate site) (b.regularTemplates w.disk)
      let postsOk ← makeAll (b.makePost site) site.posts
      return site.failed == 0 && templatesOk && postsOk : Building Bool) { w with log } =
        (ok, w') := ⟨_, h⟩
  obtain ⟨templatesOk, between, postsOk, htemplates, hposts, rfl⟩ := Building.two_apply hparts
  obtain ⟨turns, htasks, hturns, hall⟩ := turns_of_makeAll Task.template site
    (fun _ _ => rfl) htemplates
  obtain ⟨turns', htasks', hturns', hall'⟩ := turns_of_makeAll Task.post site
    (fun _ _ => rfl) hposts
  refine ⟨turns ++ turns', by rw [List.map_append, htasks, htasks'], hturns.append hturns', ?_⟩
  rw [Bool.and_eq_true, Bool.and_eq_true, hall, hall', List.forall_mem_append, beq_iff_eq,
    and_assoc]

/-- The tags whose pages are made: of those with one URL the first, unless the URL is claimed. -/
def ownTags (b : Builder) : List String → List String → List String
  | _, [] => []
  | claimed, name :: rest =>
    let url := Url.ofTag b.config.build.tagUrl name
    if url ∈ claimed then b.ownTags claimed rest else name :: b.ownTags (url :: claimed) rest

/-- Tags with different URLs all have a page of their own. -/
theorem ownTags_of_nodup {claimed names : List String}
    (h : (names.map (Url.ofTag b.config.build.tagUrl)).Nodup)
    (hfree : ∀ name ∈ names, Url.ofTag b.config.build.tagUrl name ∉ claimed) :
    b.ownTags claimed names = names := by
  induction names generalizing claimed with
  | nil => rfl
  | cons name rest ih =>
    obtain ⟨hname, hrest⟩ := List.forall_mem_cons.mp hfree
    obtain ⟨hnew, hnodup⟩ := List.nodup_cons.mp h
    rw [ownTags, if_neg hname, ih hnodup fun other hother hmem => ?_]
    rcases List.mem_cons.mp hmem with he | hmem
    · exact hnew (he ▸ List.mem_map_of_mem hother)
    · exact hrest other hother hmem

theorem turns_of_makeTagsFrom {claimed : Fields String} {names : List String}
    (h : b.makeTagsFrom site claimed names w = (ok, w')) :
    ∃ turns, turns.map Turn.task = (b.ownTags claimed.keys names).map .tag ∧
      b.Turns site w.state turns w'.state ∧
      (ok = true ↔ (∀ turn ∈ turns, turn.ok = true) ∧
        (names.map (Url.ofTag b.config.build.tagUrl)).Nodup ∧
        ∀ name ∈ names, Url.ofTag b.config.build.tagUrl name ∉ claimed.keys) := by
  induction names generalizing claimed w ok with
  | nil =>
    cases h
    exact ⟨[], rfl, .nil _, by simp⟩
  | cons name rest ih =>
    rw [makeTagsFrom] at h
    rw [ownTags]
    cases hfree : claimed.lookup (Url.ofTag b.config.build.tagUrl name) with
    | some owner =>
      -- The tag has no turn, but its failure counts.
      rw [hfree] at h
      have hclaimed : Url.ofTag b.config.build.tagUrl name ∈ claimed.keys :=
        Fields.mem_keys_iff.mpr ⟨owner, hfree⟩
      rw [if_pos hclaimed]
      obtain ⟨hok, hw⟩ := Prod.mk.inj h
      obtain ⟨turns, htasks, hturns, -⟩ := ih (Prod.ext rfl hw)
      refine ⟨turns, htasks, hturns, ?_⟩
      rw [← hok]
      simp [hclaimed]
    | none =>
      rw [hfree] at h
      have hclaimed : Url.ofTag b.config.build.tagUrl name ∉ claimed.keys := by
        intro hmem
        obtain ⟨owner, howner⟩ := Fields.mem_keys_iff.mp hmem
        cases hfree.symm.trans howner
      rw [if_neg hclaimed]
      obtain ⟨first, between, more, hname, hrest, rfl⟩ := Building.two_apply h
      obtain ⟨turn, hturn, hok, htakes⟩ := turn_of_makeUnit (.tag name) hname
      obtain ⟨turns, htasks, hturns, hall⟩ := ih hrest
      refine ⟨turn :: turns, ?_, htakes.append hturns, ?_⟩
      · rw [List.map_cons, List.map_cons, hturn, htasks]
        rfl
      · have hkeys : Fields.keys ((Url.ofTag b.config.build.tagUrl name, name) :: claimed) =
            Url.ofTag b.config.build.tagUrl name :: claimed.keys := rfl
        have hother : (∀ other ∈ rest, Url.ofTag b.config.build.tagUrl other ∉
              Url.ofTag b.config.build.tagUrl name :: claimed.keys) ↔
            Url.ofTag b.config.build.tagUrl name ∉
              rest.map (Url.ofTag b.config.build.tagUrl) ∧
            ∀ other ∈ rest, Url.ofTag b.config.build.tagUrl other ∉ claimed.keys := by
          simp [not_or, forall_and]
        rw [Bool.and_eq_true, List.forall_mem_cons, List.forall_mem_cons, List.map_cons,
          List.nodup_cons, hok, hall, hkeys, hother]
        tauto

theorem turns_of_makeTags (h : b.makeTags site w = (ok, w')) :
    ∃ turns, turns.map Turn.task = (b.ownTags [] (Fields.keys site.tags)).map .tag ∧
      b.Turns site w.state turns w'.state ∧
      (ok = true ↔ (∀ turn ∈ turns, turn.ok = true) ∧
        ((Fields.keys site.tags).map (Url.ofTag b.config.build.tagUrl)).Nodup) := by
  unfold makeTags at h
  split at h
  · rename_i hempty
    cases h
    rw [List.isEmpty_iff.mp hempty]
    exact ⟨[], rfl, .nil _, by simp [Fields.keys]⟩
  · obtain ⟨log, hall⟩ : ∃ log, b.makeTagsFrom site [] (Fields.keys site.tags) { w with log } =
        (ok, w') := ⟨_, h⟩
    obtain ⟨turns, htasks, hturns, hok⟩ := turns_of_makeTagsFrom hall
    exact ⟨turns, htasks, hturns, hok.trans (by simp [Fields.keys])⟩

theorem loadSite_apply {cells : Cells} {errors : List LogLine}
    (h : Site.load w.disk b.clock.today b.config b.pipeline = (site, cells, errors)) :
    b.loadSite w = (site, { w with cells, log := w.log ++ errors }) := by
  have hload : b.loadSite w =
      let loaded := Site.load w.disk b.clock.today b.config b.pipeline
      (loaded.1, { w with cells := loaded.2.1, log := w.log ++ loaded.2.2 }) := rfl
  rw [hload, h]

def tasks (b : Builder) (disk : Disk) (site : Site) : List Task :=
  (b.regularTemplates disk).map .template ++ site.posts.map .post ++
    (b.ownTags [] (Fields.keys site.tags)).map .tag

theorem of_mem_tasks {disk : Disk} (h : task ∈ b.tasks disk site) :
    (∃ path ∈ b.regularTemplates disk, task = .template path) ∨
      (∃ post ∈ site.posts, task = .post post) ∨
      ∃ name ∈ b.ownTags [] (Fields.keys site.tags), task = .tag name := by
  rw [tasks, List.mem_append, List.mem_append] at h
  rcases h with (h | h) | h
  · obtain ⟨path, hpath, rfl⟩ := List.mem_map.mp h
    exact .inl ⟨path, hpath, rfl⟩
  · obtain ⟨post, hpost, rfl⟩ := List.mem_map.mp h
    exact .inr (.inl ⟨post, hpost, rfl⟩)
  · obtain ⟨name, hname, rfl⟩ := List.mem_map.mp h
    exact .inr (.inr ⟨name, hname, rfl⟩)

/-- A build from a disk that is cleared loads the site and takes every unit in turn. -/
structure Builds (b : Builder) (left : Disk) (site : Site) (errors : List LogLine)
    (turns : List Turn) (t : Disk × Cells) : Prop where
  load : ∃ cells, Site.load left b.clock.today b.config b.pipeline = (site, cells, errors) ∧
    b.Turns site (left, cells) turns t
  tasks : turns.map Turn.task = b.tasks left site

/-- A build that cannot clear the output does nothing else. -/
theorem build_of_not_cleared {e : BuildError} (h : b.cleared w.disk = .error e) :
    b.build w = (.error e, w) := by
  unfold cleared at h
  rw [build, Building.bind_apply, Building.get_apply]
  dsimp only
  rw [h]
  rfl

/-- The steps of a build whose output is cleared. -/
theorem build_apply {left : Disk} (h : b.cleared w.disk = .ok left) :
    ∃ log, b.build w = (do
      let site ← b.loadSite
      let templatesOk ← b.makeTemplates site
      let tagsOk ← b.makeTags site
      Building.say "build" (if templatesOk && tagsOk then "done" else "finished with errors")
      return .ok (templatesOk && tagsOk) : Building (Except BuildError Bool))
        { w with disk := left, log } := by
  unfold cleared at h
  rw [build, Building.bind_apply, Building.get_apply]
  dsimp only
  rw [h]
  dsimp only
  rw [Building.bind_apply]
  split
  · rw [Building.bind_apply]
    exact ⟨_, rfl⟩
  · exact ⟨_, rfl⟩

/-- A build from a cleared output takes every unit in turn, and says at the end whether every post
was loaded, every unit succeeded, and no tags share a URL. -/
theorem build_of_cleared {left : Disk} (h : b.cleared w.disk = .ok left) :
    ∃ site errors turns ok w', b.build w = (.ok ok, w') ∧ b.Builds left site errors turns w'.state ∧
      errors <:+: w'.log ∧
      (ok = true ↔ site.failed = 0 ∧ (∀ turn ∈ turns, turn.ok = true) ∧
        ((Fields.keys site.tags).map (Url.ofTag b.config.build.tagUrl)).Nodup) := by
  obtain ⟨log, hbuild⟩ := build_apply h
  -- The three stages in turn: loading, the templates with the posts, the tags.
  rcases hload : Site.load left b.clock.today b.config b.pipeline with ⟨site, cells, errors⟩
  rw [Building.bind_apply, loadSite_apply (w := { w with disk := left, log }) hload] at hbuild
  rcases htemplates : b.makeTemplates site ⟨left, cells, log ++ errors⟩ with ⟨templatesOk, between⟩
  rcases htags : b.makeTags site between with ⟨tagsOk, last⟩
  obtain ⟨turns, htasks, hturns, hall⟩ := turns_of_makeTemplates htemplates
  obtain ⟨turns', htasks', hturns', hall'⟩ := turns_of_makeTags htags
  rw [Building.bind_apply, htemplates, Building.bind_apply, htags] at hbuild
  refine ⟨site, errors, turns ++ turns', templatesOk && tagsOk, _, hbuild,
    ⟨⟨cells, hload, hturns.append hturns'⟩, ?_⟩, ?_, ?_⟩
  · rw [List.map_append, htasks, htasks', tasks]
  · have hbetween := Logs.rules.makeTemplates b site ⟨left, cells, log ++ errors⟩
    have hlast := Logs.rules.makeTags b site between
    rw [htemplates] at hbetween
    rw [htags] at hlast
    exact (List.suffix_append log errors).isInfix.trans
      ((hbetween.trans hlast).trans (List.prefix_append _ _)).isInfix
  · rw [Bool.and_eq_true, hall, hall', List.forall_mem_append]
    tauto

end Builder
end LayeredSite
