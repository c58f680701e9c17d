import LayeredSite.Program
import LayeredSite.Proofs.Fields
import Mathlib.Algebra.Ring.Nat
import Mathlib.Data.List.Induction

namespace LayeredSite

namespace Tags

/-- The count of a name is how often it occurs; names that do not occur have none. -/
theorem get?_countAll (names : List String) (name : String) :
    Fields.get? (countAll names) name =
      if name ∈ names then some (names.count name) else none := by
  induction names using List.reverseRecOn with
  | nil => rfl
  | append_singleton names last ih =>
    have hlast : countAll (names ++ [last]) = count (countAll names) last := by
      simp [countAll, List.foldl_append]
    rw [hlast, count]
    by_cases he : name = last
    · subst he
      rw [Fields.get?_insert_self, ih]
      by_cases hmem : name ∈ names
      · simp [hmem]
      · simp [hmem, List.count_eq_zero_of_not_mem]
    · rw [Fields.get?_insert_of_ne he, ih]
      simp [he, Ne.symm he, List.count_append]

theorem mem_keys_countAll {names : List String} {name : String} :
    name ∈ Fields.keys (countAll names) ↔ name ∈ names := by
  rw [Fields.mem_keys_iff, get?_countAll]
  by_cases hmem : name ∈ names <;> simp [hmem]

theorem sorted_countAll (names : List String) : Fields.Sorted (countAll names) := by
  induction names using List.reverseRecOn with
  | nil => exact List.Pairwise.nil
  | append_singleton names last ih =>
    have hlast : countAll (names ++ [last]) = count (countAll names) last := by
      simp [countAll, List.foldl_append]
    rw [hlast]
    exact Fields.sorted_insert _ _ ih

end Tags

namespace Site

def timesNamed (posts : List Post) (name : String) : Nat :=
  (posts.map fun post => post.options.tags.count name).sum

theorem count_tagNames (posts : List Post) (name : String) :
    (tagNames posts).count name = timesNamed posts name := by
  rw [tagNames, List.count_flatMap]
  rfl

theorem hasTag_iff {o : DocumentOptions} {name : String} :
    o.hasTag name = true ↔ 0 < o.tags.count name := by
  rw [DocumentOptions.hasTag, List.contains_iff_mem, List.count_pos_iff]

theorem mem_tagNames {posts : List Post} {name : String} :
    name ∈ tagNames posts ↔ ∃ post ∈ posts, post.options.hasTag name = true := by
  simp [tagNames, DocumentOptions.hasTag]

theorem postsWith_singleton (site : Site) (name : String) :
    site.postsWith [name] = site.posts.filter fun post => post.options.hasTag name := by
  simp [postsWith, Post.hasTags]

/-- Posts with a tag name it at least once, all others never. -/
theorem countP_hasTag_le (posts : List Post) (name : String) :
    posts.countP (fun post => post.options.hasTag name) ≤ timesNamed posts name := by
  induction posts with
  | nil => simp [timesNamed]
  | cons post rest ih =>
    rw [timesNamed] at ih ⊢
    rw [List.countP_cons, List.map_cons, List.sum_cons]
    by_cases htag : post.options.hasTag name = true
    · have hpos := hasTag_iff.mp htag
      rw [if_pos htag]
      omega
    · rw [if_neg htag]
      omega

/-- The posts with a tag are as many as the times that they name it, exactly if none names it
twice. -/
theorem timesNamed_eq_iff (posts : List Post) (name : String) :
    timesNamed posts name = posts.countP (fun post => post.options.hasTag name) ↔
      ∀ post ∈ posts, post.options.tags.count name ≤ 1 := by
  induction posts with
  | nil => simp [timesNamed]
  | cons post rest ih =>
    have hle := countP_hasTag_le rest name
    rw [List.forall_mem_cons, ← ih]
    rw [timesNamed] at hle ⊢
    rw [List.countP_cons, List.map_cons, List.sum_cons, timesNamed]
    by_cases htag : post.options.hasTag name = true
    · have hpos := hasTag_iff.mp htag
      rw [if_pos htag]
      omega
    · have hzero : post.options.tags.count name = 0 := by
        have hnone := mt hasTag_iff.mpr htag
        omega
      rw [if_neg htag, hzero]
      omega

/-- The posts that a page sees are those with its tag. -/
theorem entry_posts_context [Toolkit] (site : Site) (date : Date) (tag : Option String) :
    (site.context date tag).entry (.str "posts") =
      .list ((site.postsWith tag.toList).map fun post =>
        post.toValue site.config.build.tagUrl) := by
  have hget : ∀ (value : Value) (entries : List (String × Value)),
      (∀ e ∈ entries, "posts" ≠ e.1) →
        (Value.record (("posts", value) :: entries)).entry (.str "posts") = value := by
    intro value entries hne
    have hmerge : Fields.ofList (("posts", value) :: entries) =
        Fields.merge (Fields.insert "posts" value []) entries := rfl
    simp [Value.record, Value.entry, hmerge, Fields.get?_merge_of_ne hne, Fields.get?_insert_self]
  refine hget _ _ fun e he => ?_
  cases tag <;> simp at he
  · rcases he with rfl | rfl | rfl | rfl <;> simp
  · rcases he with rfl | rfl | rfl | rfl | rfl <;> simp

/-- A loaded site has the tags that some post has, each once and in the order of the names. The
count of a tag is how often the posts name it; as many posts have it, and are listed on its page,
exactly if no post names it twice. -/
theorem count_of_load [Toolkit] (disk : Disk) (today : Date) (config : SiteConfig)
    (pipeline : Pipeline) (name : String) :
    let site := (load disk today config pipeline).1
    Fields.Sorted site.tags ∧
    (name ∈ Fields.keys site.tags ↔ ∃ post ∈ site.posts, post.options.hasTag name = true) ∧
    (∀ n, Fields.get? site.tags name = some n ↔
      n = timesNamed site.posts name ∧ ∃ post ∈ site.posts, post.options.hasTag name = true) ∧
    (timesNamed site.posts name = (site.postsWith [name]).length ↔
      ∀ post ∈ site.posts, post.options.tags.count name ≤ 1) ∧
    ∀ date, ∃ posts, (site.context date (some name)).entry (.str "posts") = .list posts ∧
      posts.length = (site.postsWith [name]).length := by
  intro site
  have htags : site.tags = Tags.countAll (tagNames site.posts) := rfl
  refine ⟨htags ▸ Tags.sorted_countAll _, ?_, ?_, ?_, ?_⟩
  · rw [htags, Tags.mem_keys_countAll, mem_tagNames]
  · intro n
    rw [htags, Tags.get?_countAll, count_tagNames, ← mem_tagNames]
    by_cases hmem : name ∈ tagNames site.posts
    · simp [hmem, eq_comm]
    · simp [hmem]
  · rw [postsWith_singleton, ← List.countP_eq_length_filter, timesNamed_eq_iff]
  · intro date
    exact ⟨_, entry_posts_context site date (some name), by simp⟩

/-- A site with one post that names its only tag twice. -/
def echoing : Disk :=
  ⟨.dir [("template", .dir [("_posts", .dir [("a.sx", .file ";tags: rust, rust\n" 0)])])], []⟩

/-- The tag is counted twice, though one post has it. -/
theorem echoing_counts_twice :
    let site := (load echoing Date.epoch {} []).1
    Fields.get? site.tags "rust" = some 2 ∧ (site.postsWith ["rust"]).length = 1 := by
  constructor
  · decide +kernel
  · decide +kernel

end Site
end LayeredSite
