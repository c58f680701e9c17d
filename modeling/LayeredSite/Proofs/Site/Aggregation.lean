import LayeredSite.Proofs.Site.Loading
import LayeredSite.Proofs.Site.TagCounts

namespace LayeredSite

namespace Date

variable {a b c : Date}

theorem notAfter_iff : a.notAfter b = true ↔
    a.year < b.year ∨ a.year = b.year ∧
      (a.month < b.month ∨ a.month = b.month ∧ a.day ≤ b.day) := by
  simp [notAfter]

theorem notAfter_trans (hab : a.notAfter b = true) (hbc : b.notAfter c = true) :
    a.notAfter c = true := by
  rw [notAfter_iff] at hab hbc ⊢
  omega

theorem notAfter_total (a b : Date) : (a.notAfter b || b.notAfter a) = true := by
  rw [Bool.or_eq_true, notAfter_iff, notAfter_iff]
  omega

theorem notAfter_refl (a : Date) : a.notAfter a = true := by
  rw [notAfter_iff]
  omega

end Date

namespace Post

theorem sort_perm (posts : List Post) : (sort posts).Perm posts := List.mergeSort_perm posts _

/-- Of two posts the first is of a later year, or of a later month or day in the same year, or they
are of one day. -/
theorem pairwise_sort (posts : List Post) : (sort posts).Pairwise fun a b =>
    b.date.year < a.date.year ∨ b.date.year = a.date.year ∧
      (b.date.month < a.date.month ∨ b.date.month = a.date.month ∧ b.date.day ≤ a.date.day) := by
  have hsorted : (sort posts).Pairwise fun a b => b.date.notAfter a.date = true := by
    refine List.pairwise_mergeSort (fun a b c hab hbc => ?_) (fun a b => ?_) posts
    · exact Date.notAfter_trans hbc hab
    · exact Date.notAfter_total b.date a.date
  exact hsorted.imp Date.notAfter_iff.mp

/-- Sorting keeps the order of the posts of one date. -/
theorem filter_date_sort (posts : List Post) (date : Date) :
    (sort posts).filter (fun post => post.date = date) =
      posts.filter fun post => post.date = date := by
  have hequal : (posts.filter fun post => post.date = date).Pairwise
      fun a b => b.date.notAfter a.date = true := by
    refine List.pairwise_of_forall_mem_list fun a ha b hb => ?_
    have hdate : b.date = a.date := by
      rw [of_decide_eq_true (List.mem_filter.mp ha).2, of_decide_eq_true (List.mem_filter.mp hb).2]
    rw [hdate]
    exact Date.notAfter_refl a.date
  -- The posts of the date are in order already, so a stable sort has them as a sublist.
  have hsub : (posts.filter fun post => post.date = date).Sublist (sort posts) := by
    refine List.sublist_mergeSort (fun a b c hab hbc => ?_) (fun a b => ?_) hequal
      List.filter_sublist
    · exact Date.notAfter_trans hbc hab
    · exact Date.notAfter_total b.date a.date
  have hfilter := hsub.filter fun post => decide (post.date = date)
  simp only [List.filter_filter, Bool.and_self] at hfilter
  -- There are as many of them before and after, so the sublist is all of them.
  exact (hfilter.eq_of_length ((sort_perm posts).symm.filter _).length_eq).symm

end Post

namespace Site

variable {disk : Disk} {today : Date} {config : SiteConfig} {path : String}

/-- The post has the options, the date, the slug and the URL that its file gives. -/
structure IsPostOf [Toolkit] (disk : Disk) (today : Date) (config : SiteConfig) (path : String)
    (post : Post) : Prop where
  source : post.source = path
  options : ∃ doc, document disk config path = .ok doc ∧ post.options = doc.options
  date : post.date = disk.dateOf today path post.options.date
  slug : post.slug = Url.postSlug path
  url : post.url = Url.ofPost config.build.postUrl post.date post.slug

theorem isPostOf_ofDocument [Toolkit] {doc : Document} (h : document disk config path = .ok doc)
    (pipeline : Pipeline) (cells : Cells) : IsPostOf disk today config path
      (Post.ofDocument disk today (settings config pipeline) path cells doc).1 :=
  ⟨rfl, ⟨doc, h, rfl⟩, rfl, rfl, rfl⟩

def compiling (disk : Disk) (config : SiteConfig) : List String :=
  (postFiles disk config).filter fun path => (failure? disk config path).isNone

/-- Loading takes the posts of the files that compile, in the order of the files. -/
theorem forall₂_loadPosts [Toolkit] (disk : Disk) (today : Date) (config : SiteConfig)
    (pipeline : Pipeline) : List.Forall₂ (IsPostOf disk today config) (compiling disk config)
      (loadPosts disk today config pipeline).posts := by
  unfold loadPosts compiling
  change List.Forall₂ _ _ (Loading.posts ((postFiles disk config).foldl _ _))
  generalize postFiles disk config = paths
  induction paths using List.reverseRecOn with
  | nil => exact List.Forall₂.nil
  | append_singleton paths path ih =>
    rw [List.foldl_append, List.filter_append, List.foldl_cons, List.foldl_nil]
    cases hdoc : document disk config path with
    | error e =>
      have hfailure : (failure? disk config path).isNone = false := by rw [failure?, hdoc]; rfl
      rw [List.filter_singleton, hfailure, loadPost_of_error hdoc]
      simpa using ih
    | ok doc =>
      have hfailure : (failure? disk config path).isNone = true := by rw [failure?, hdoc]; rfl
      rw [List.filter_singleton, hfailure, loadPost_of_ok hdoc]
      exact List.rel_append ih (.cons (isPostOf_ofDocument hdoc pipeline _) .nil)

theorem length_compiling (disk : Disk) (config : SiteConfig) :
    (compiling disk config).length + ((postFiles disk config).filterMap
      (failure? disk config)).length = (postFiles disk config).length := by
  rw [compiling, List.length_filterMap_eq_countP, ← List.countP_eq_length_filter,
    List.length_eq_countP_add_countP fun path => (failure? disk config path).isNone]
  congr 1
  refine List.countP_congr fun path _ => ?_
  cases failure? disk config path <;> simp

def narrow (site : Site) (filter : List String) : Site :=
  { site with posts := site.postsWith filter }

/-- Filtering by the tags of two filters is filtering by one and then by the other. -/
theorem postsWith_append (site : Site) (f g : List String) :
    site.postsWith (f ++ g) = (site.narrow f).postsWith g ∧
      site.postsWith (f ++ g) = (site.narrow g).postsWith f := by
  have hall : ∀ post : Post, post.hasTags (f ++ g) = (post.hasTags f && post.hasTags g) := by
    intro post
    rw [Post.hasTags, List.all_append]
    rfl
  constructor
  · simp only [narrow, postsWith, List.filter_filter]
    exact List.filter_congr fun post _ => by rw [hall, Bool.and_comm]
  · simp only [narrow, postsWith, List.filter_filter]
    exact List.filter_congr fun post _ => hall post

/-- A loaded site has one post for each file that compiles, and has counted the others. The
posts stand with the newest first, those of one date in the order of their files. A filter keeps
the posts that have all its tags, in this order, and a page sees the posts of its tag. -/
theorem posts_of_load [Toolkit] (disk : Disk) (today : Date) (config : SiteConfig)
    (pipeline : Pipeline) :
    let site := (load disk today config pipeline).1
    site.posts.length + site.failed = (postFiles disk config).length ∧
    (∃ loaded, List.Forall₂ (IsPostOf disk today config) (compiling disk config) loaded ∧
      site.posts.Perm loaded ∧
      ∀ date, site.posts.filter (fun post => post.date = date) =
        loaded.filter fun post => post.date = date) ∧
    site.posts.Pairwise (fun a b => b.date.year < a.date.year ∨ b.date.year = a.date.year ∧
      (b.date.month < a.date.month ∨
        b.date.month = a.date.month ∧ b.date.day ≤ a.date.day)) ∧
    (∀ filter, site.postsWith filter =
      site.posts.filter fun post => ∀ tag ∈ filter, tag ∈ post.options.tags) ∧
    (∀ f g, site.postsWith (f ++ g) = (site.narrow f).postsWith g ∧
      site.postsWith (f ++ g) = (site.narrow g).postsWith f) ∧
    ∀ date tag, (site.context date tag).entry (.str "posts") =
      .list ((site.postsWith tag.toList).map fun post => post.toValue config.build.tagUrl) := by
  intro site
  have hloaded := forall₂_loadPosts disk today config pipeline
  -- The posts are sorted after they have been loaded in the order of their files.
  have hposts : site.posts = Post.sort (loadPosts disk today config pipeline).posts := rfl
  refine ⟨?_, ⟨_, hloaded, ?_, fun date => ?_⟩, ?_, fun filter => ?_, postsWith_append site,
    fun date tag => entry_posts_context site date tag⟩
  · have hfailed : site.failed = (loadPosts disk today config pipeline).errors.length := rfl
    rw [hfailed, (loadedFrom_loadPosts disk today config pipeline).errors, hposts,
      (Post.sort_perm _).length_eq, ← hloaded.length_eq, length_compiling]
  · rw [hposts]
    exact Post.sort_perm _
  · rw [hposts]
    exact Post.filter_date_sort _ date
  · rw [hposts]
    exact Post.pairwise_sort _
  · refine List.filter_congr fun post _ => ?_
    rw [Bool.eq_iff_iff]
    simp [Post.hasTags, DocumentOptions.hasTag]

end Site
end LayeredSite
