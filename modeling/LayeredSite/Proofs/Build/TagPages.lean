import LayeredSite.Proofs.Build.Reports
import LayeredSite.Proofs.Site.TagCounts
import LayeredSite.Proofs.Site.TagUrls

namespace LayeredSite.Builder

section TagPages

variable [Toolkit] {b : Builder} {site : Site} {w w' : Workshop} {s t : Disk × Cells}
  {turns : List Turn} {claimed : Fields String} {names : List String} {name : String} {ok : Bool}

def tagUrl (b : Builder) (name : String) : String := Url.ofTag b.config.build.tagUrl name

/-- No tag with the same URL comes earlier in the order of names. -/
def Leads (b : Builder) (names : List String) (name : String) : Prop :=
  ∀ other ∈ names, b.tagUrl other = b.tagUrl name → ¬ other < name

instance (b : Builder) (names : List String) : DecidablePred (b.Leads names) := fun name =>
  inferInstanceAs (Decidable (∀ other ∈ names, b.tagUrl other = b.tagUrl name → ¬ other < name))

def refusal (b : Builder) (name owner : String) : LogLine :=
  ⟨"error", tagUnit name ++ ": output " ++ b.tagUrl name ++ " already written for tag " ++
    quoted owner⟩

theorem ownTags_of_mem {first : String} {rest claimed : List String}
    (h : b.tagUrl first ∈ claimed) :
    b.ownTags claimed (first :: rest) = b.ownTags claimed rest := if_pos h

theorem ownTags_of_not_mem {first : String} {rest claimed : List String}
    (h : b.tagUrl first ∉ claimed) :
    b.ownTags claimed (first :: rest) = first :: b.ownTags (b.tagUrl first :: claimed) rest :=
  if_neg h

/-- Among sorted names those that lead have pages of their own. -/
theorem ownTags_eq_filter (b : Builder) (claimed : List String)
    (hsorted : names.Pairwise (· < ·)) : b.ownTags claimed names =
      names.filter fun name => b.tagUrl name ∉ claimed ∧ b.Leads names name := by
  induction names generalizing claimed with
  | nil => rfl
  | cons first rest ih =>
    obtain ⟨hfirst, hrest⟩ := List.pairwise_cons.mp hsorted
    have hleads : b.Leads (first :: rest) first := by
      intro other hother _ hlt
      rcases List.mem_cons.mp hother with rfl | hother
      · exact String.lt_irrefl _ hlt
      · exact String.lt_asymm hlt (hfirst other hother)
    have hbehind : ∀ name ∈ rest, b.Leads (first :: rest) name ↔
        b.tagUrl name ≠ b.tagUrl first ∧ b.Leads rest name := by
      intro name hname
      rw [Leads, List.forall_mem_cons, Leads]
      refine and_congr_left fun _ => ⟨fun hne heq => hne heq.symm (hfirst name hname), ?_⟩
      exact fun hne heq => absurd heq.symm hne
    by_cases hclaimed : b.tagUrl first ∈ claimed
    · rw [ownTags_of_mem hclaimed, ih claimed hrest,
        List.filter_cons_of_neg (by simp [hclaimed])]
      refine List.filter_congr fun name hname => decide_eq_decide.mpr ?_
      rw [hbehind name hname]
      refine and_congr_right fun hfree => (and_iff_right ?_).symm
      exact fun heq => hfree (by rwa [heq])
    · rw [ownTags_of_not_mem hclaimed, ih _ hrest,
        List.filter_cons_of_pos (by simp [hclaimed, hleads])]
      refine congrArg (first :: ·) (List.filter_congr fun name hname => decide_eq_decide.mpr ?_)
      rw [hbehind name hname, List.mem_cons, not_or]
      exact and_assoc.trans and_left_comm

/-- A tag whose URL is claimed is refused, and the others go on. -/
theorem makeTagsFrom_of_some {first owner : String} {rest : List String}
    (h : claimed.lookup (b.tagUrl first) = some owner) (w : Workshop) :
    b.makeTagsFrom site claimed (first :: rest) w = (false,
      (b.makeTagsFrom site claimed rest
        { w with log := w.log ++ [b.refusal first owner] }).2) := by
  have hlookup : claimed.lookup (Url.ofTag b.config.build.tagUrl first) = some owner := h
  rw [makeTagsFrom, hlookup]
  rfl

/-- A tag with a new URL is made, and claims it. -/
theorem makeTagsFrom_of_none {first : String} {rest : List String}
    (h : claimed.lookup (b.tagUrl first) = none) :
    b.makeTagsFrom site claimed (first :: rest) = (do
      let ok ← b.makeTag site first
      let more ← b.makeTagsFrom site ((b.tagUrl first, first) :: claimed) rest
      return ok && more) := by
  have hlookup : claimed.lookup (Url.ofTag b.config.build.tagUrl first) = none := h
  rw [makeTagsFrom, hlookup]
  rfl

theorem logs_makeTag (b : Builder) (site : Site) (name : String) : Logs (b.makeTag site name) :=
  .look fun _ => .makeUnit _ _

/-- A tag without a page of its own is refused, and the line names the tag that has its URL. -/
theorem says_refusal (h : b.makeTagsFrom site claimed names w = (ok, w')) (hname : name ∈ names)
    (hother : name ∉ b.ownTags claimed.keys names) : ∃ owner,
      (claimed.lookup (b.tagUrl name) = some owner ∨
        owner ∈ b.ownTags claimed.keys names ∧ b.tagUrl owner = b.tagUrl name) ∧
      w.Says w' (b.refusal name owner) := by
  -- The URLs that are taken grow along the list, so the induction is over every table of them.
  induction names generalizing claimed w ok with
  | nil => cases hname
  | cons first rest ih =>
    cases hfree : claimed.lookup (b.tagUrl first) with
    | some owner =>
      have hclaimed : b.tagUrl first ∈ claimed.keys := Fields.mem_keys_iff.mpr ⟨owner, hfree⟩
      rw [ownTags_of_mem hclaimed] at hother ⊢
      rw [makeTagsFrom_of_some hfree] at h
      obtain ⟨-, hw⟩ := Prod.mk.inj h
      rcases List.mem_cons.mp hname with rfl | hname
      · have hsaid : w.Says { w with log := w.log ++ [b.refusal name owner] }
            (b.refusal name owner) := ⟨_, rfl, List.mem_singleton_self _⟩
        exact ⟨owner, .inl hfree, hw ▸ hsaid.upTo (Logs.rules.makeTagsFrom _ _ _)⟩
      · obtain ⟨owner', howner, hsays⟩ := ih (Prod.ext rfl hw) hname hother
        exact ⟨owner', howner, hsays.since (List.prefix_append _ _)⟩
    | none =>
      have hclaimed : b.tagUrl first ∉ claimed.keys := by
        intro hmem
        obtain ⟨owner, howner⟩ := Fields.mem_keys_iff.mp hmem
        cases hfree.symm.trans howner
      rw [ownTags_of_not_mem hclaimed] at hother ⊢
      rw [makeTagsFrom_of_none hfree] at h
      obtain ⟨hne, hrest⟩ := not_or.mp (mt List.mem_cons.mpr hother)
      obtain ⟨first', between, more, hfirst, hmore, -⟩ := Building.two_apply h
      obtain ⟨owner, howner, hsays⟩ :=
        ih hmore ((List.mem_cons.mp hname).resolve_left hne) hrest
      have hlogs : w.log <+: between.log := by
        have hmake := logs_makeTag b site first w
        rwa [hfirst] at hmake
      refine ⟨owner, ?_, hsays.since hlogs⟩
      -- The owner was there before this tag, or it is this tag, or it is among the tags behind.
      rcases howner with hlookup | ⟨howner, hurl⟩
      · rw [List.lookup_cons] at hlookup
        split at hlookup
        · rename_i hurl
          cases hlookup
          exact .inr ⟨List.mem_cons_self, (beq_iff_eq.mp hurl).symm⟩
        · exact .inl hlookup
      · exact .inr ⟨List.mem_cons_of_mem _ howner, hurl⟩

theorem says_refusal_of_makeTags (h : b.makeTags site w = (ok, w'))
    (hname : name ∈ Fields.keys site.tags) (hother : name ∉ b.ownTags [] (Fields.keys site.tags)) :
    ∃ owner ∈ b.ownTags [] (Fields.keys site.tags), b.tagUrl owner = b.tagUrl name ∧
      w.Says w' (b.refusal name owner) := by
  unfold makeTags at h
  split at h
  · rename_i hempty
    rw [List.isEmpty_iff.mp hempty] at hname
    cases hname
  · obtain ⟨log, hlog, hall⟩ : ∃ log, w.log <+: log ∧
        b.makeTagsFrom site [] (Fields.keys site.tags) { w with log } = (ok, w') :=
      ⟨_, List.prefix_append _ _, h⟩
    obtain ⟨owner, hnone | ⟨howner, hurl⟩, hsays⟩ := says_refusal hall hname hother
    · cases hnone
    · exact ⟨owner, howner, hurl, hsays.since hlog⟩

/-- The page of a tag is the file of its URL. -/
theorem path_of_takes {turn : Turn} {page : Page} (h : b.Takes site s turn)
    (htask : turn.task = .tag name) (hpage : turn.page = .ok page) :
    page.path = Url.outputPath b.config.build.output (b.tagUrl name) := by
  have hat : PagesAt (· = Url.outputPath b.config.build.output (b.tagUrl name))
      (turn.task.page b site s.1) := by
    refine pagesAt_task site s.1 turn.task fun url hurl => ?_
    rw [htask] at hurl
    exact congrArg (Url.outputPath b.config.build.output) (Option.some.inj hurl).symm
  exact hat _ _ _ (hpage ▸ h.page)

/-- Tags with different URLs, taken in turn, have pages in different files. -/
theorem pairwise_pages {own : List String}
    (hslug : ∀ text, Url.IsSlug (Toolkit.slugify text).toList)
    (h : Text.hasPlaceholder b.config.build.tagUrl "tag" = true) (hturns : b.Turns site s turns t)
    (htasks : turns.map Turn.task = own.map .tag)
    (hown : own.Pairwise fun name other => b.tagUrl name ≠ b.tagUrl other) :
    turns.Pairwise fun turn other => ∀ page page', turn.page = .ok page → other.page = .ok page' →
      Path.same page.path page'.path = false := by
  -- Each turn is for a tag, so that the pairs of tags are carried over to the turns.
  have hurls : (turns.map Turn.task).Pairwise fun task other => ∀ name name', task = .tag name →
      other = .tag name' → b.tagUrl name ≠ b.tagUrl name' := by
    rw [htasks, List.pairwise_map]
    refine hown.imp fun hne name name' hname hname' => ?_
    cases hname
    cases hname'
    exact hne
  have htag : ∀ turn ∈ turns, ∃ name, turn.task = .tag name := fun turn hturn => by
    obtain ⟨name, -, hname⟩ := List.mem_map.mp (htasks ▸ List.mem_map_of_mem hturn)
    exact ⟨name, hname.symm⟩
  refine (List.pairwise_map.mp hurls).imp_of_mem ?_
  intro turn other hturn hother hne page page' hpage hpage'
  obtain ⟨name, hname⟩ := htag turn hturn
  obtain ⟨name', hname'⟩ := htag other hother
  obtain ⟨_, htakes⟩ := hturns.takes hturn
  obtain ⟨_, htakes'⟩ := hturns.takes hother
  rw [path_of_takes htakes hname hpage, path_of_takes htakes' hname' hpage', Bool.eq_false_iff]
  exact mt (Url.same_outputPath_iff hslug h _ _ _).mp (hne name name' hname hname')

/-- Tags that lead have different URLs. -/
theorem pairwise_leads (hsorted : names.Pairwise (· < ·)) :
    (names.filter fun name => b.Leads names name).Pairwise fun name other =>
      b.tagUrl name ≠ b.tagUrl other := by
  refine (hsorted.sublist List.filter_sublist).imp_of_mem ?_
  intro name other hname hother hlt heq
  have hleads := of_decide_eq_true (List.mem_filter.mp hother).2
  exact hleads name (List.mem_filter.mp hname).1 heq hlt

/-- The pages of tags never overwrite each other, whatever makes slugs of their names, as long as
these have letters, digits and dashes only. With a placeholder in the pattern, the tags that
lead among those with their URL are attempted, one after another, and no others. Their pages are
different files. Every other tag is refused with an error, and all is well only if there is none and
every page is written. -/
theorem tag_pages_apart (hslug : ∀ text, Url.IsSlug (Toolkit.slugify text).toList)
    (b : Builder) (w : Workshop)
    (h : Text.hasPlaceholder b.config.build.tagUrl "tag" = true) :
    let names := Fields.keys (b.loaded w.disk).tags
    let w' := (b.compileTags w).2
    names.Pairwise (· < ·) ∧ ∃ turns,
      b.Turns (b.loaded w.disk) (b.loadSite w).2.state turns w'.state ∧
      turns.map Turn.task = (names.filter fun name => b.Leads names name).map .tag ∧
      turns.Pairwise (fun turn other => ∀ page page', turn.page = .ok page →
        other.page = .ok page' → Path.same page.path page'.path = false) ∧
      (∀ name ∈ names, ¬ b.Leads names name → ∃ owner ∈ names, b.Leads names owner ∧
        b.tagUrl owner = b.tagUrl name ∧ w.Says w' (b.refusal name owner)) ∧
      ((b.compileTags w).1 = true ↔
        (names.map b.tagUrl).Nodup ∧ ∀ turn ∈ turns, b.Written turn) := by
  intro names w'
  have hsorted : names.Pairwise (· < ·) :=
    (Site.count_of_load w.disk b.clock.today b.config b.pipeline "").1
  have hmade : b.makeTags (b.loaded w.disk) (b.loadSite w).2 = ((b.compileTags w).1, w') := rfl
  -- In the order of their names, a tag is the first of its URL exactly if it leads.
  have hown : b.ownTags [] names = names.filter fun name => b.Leads names name := by
    rw [ownTags_eq_filter b [] hsorted]
    simp
  obtain ⟨turns, htasks, hturns, hok⟩ := turns_of_makeTags hmade
  rw [hown] at htasks
  refine ⟨hsorted, turns, hturns, htasks, ?_, ?_, ?_⟩
  · exact pairwise_pages hslug h hturns htasks (pairwise_leads hsorted)
  · intro name hname hnot
    have hother : name ∉ b.ownTags [] names := by
      rw [hown]
      simp [hnot]
    obtain ⟨owner, howner, hurl, hsays⟩ := says_refusal_of_makeTags hmade hname hother
    rw [hown, List.mem_filter, decide_eq_true_eq] at howner
    exact ⟨owner, howner.1, howner.2, hurl, hsays.since (logs_loadSite b w)⟩
  · rw [hok, and_comm]
    refine and_congr_right fun _ => forall₂_congr fun turn hturn => ?_
    obtain ⟨s, htakes⟩ := hturns.takes hturn
    exact htakes.ok_iff

end TagPages

theorem isSlug_slugify (text : String) : Url.IsSlug (Toolkit.slugify text).toList := by
  intro c hc
  have hofText : Toolkit.slugify text = String.ofList (Slug.ofChars text.toList) := rfl
  rw [hofText, String.toList_ofList] at hc
  simpa [Slug.isSlugChar, or_assoc] using Slug.mem_ofChars hc

def synonyms : Workshop :=
  ⟨⟨.dir [("template", .dir [
    ("_layouts", .dir [("tag.sx", .file "\"tag\"" 0)]),
    ("_posts", .dir [("2024-01-01-a.sx", .file ";tags: rust, Rust\n\"post\"" 0)])])], []⟩, [], []⟩

/-- The capital comes first, and the other tag is refused. -/
theorem synonyms_refused :
    (∀ text, Url.IsSlug (Toolkit.slugify text).toList) ∧
      Text.hasPlaceholder usual.config.build.tagUrl "tag" = true ∧
      Fields.keys (usual.loaded synonyms.disk).tags = ["Rust", "rust"] ∧
      (usual.compileTags synonyms).1 = false ∧
      synonyms.Says (usual.compileTags synonyms).2 (usual.refusal "rust" "Rust") := by
  have hpattern : Text.hasPlaceholder usual.config.build.tagUrl "tag" = true := by decide +kernel
  have hnames : Fields.keys (usual.loaded synonyms.disk).tags = ["Rust", "rust"] := by
    decide +kernel
  have hfollows : ¬ usual.Leads ["Rust", "rust"] "rust" := by decide +kernel
  have hclash : ¬ (["Rust", "rust"].map usual.tagUrl).Nodup := by decide +kernel
  obtain ⟨-, turns, -, -, -, hrefused, hok⟩ :=
    tag_pages_apart isSlug_slugify usual synonyms hpattern
  rw [hnames] at hrefused hok
  obtain ⟨owner, howner, hleads, -, hsays⟩ := hrefused "rust" (by simp) hfollows
  have hfails : (usual.compileTags synonyms).1 = false :=
    Bool.eq_false_iff.mpr fun htrue => hclash (hok.mp htrue).1
  refine ⟨isSlug_slugify, hpattern, hnames, hfails, ?_⟩
  rcases List.mem_cons.mp howner with rfl | howner
  · exact hsays
  · exact absurd (List.mem_singleton.mp howner ▸ hleads) hfollows

end LayeredSite.Builder
