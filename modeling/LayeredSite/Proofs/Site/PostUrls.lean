import LayeredSite.Program
import LayeredSite.Proofs.Date.ReadBack
import LayeredSite.Proofs.Site.Loading
import LayeredSite.Proofs.Text.Placeholders

namespace LayeredSite

namespace Date

theorem toList_toString (i : ℤ) : (toString i).toList =
    if i < 0 then '-' :: Nat.toDigits 10 i.natAbs else Nat.toDigits 10 i.natAbs := by
  cases i with
  | ofNat n =>
    rw [if_neg (by simp)]
    exact String.toList_ofList
  | negSucc n =>
    have hrepr : toString (Int.negSucc n) = "-" ++ String.ofList (Nat.toDigits 10 (n + 1)) := rfl
    rw [if_pos (Int.negSucc_lt_zero n), hrepr]
    simp

/-- The year in a URL has no other characters. -/
theorem of_mem_toString {i : ℤ} {c : Char} (h : c ∈ (toString i).toList) :
    Number.isDigit c = true ∨ c = '-' := by
  have hdigit (h : c ∈ Nat.toDigits 10 i.natAbs) : Number.isDigit c = true :=
    isDigit_of_mem_padded (List.mem_append_right (List.replicate (0 - _) '0') h)
  rw [toList_toString] at h
  split at h
  · exact (List.mem_cons.mp h).elim .inr fun hc => .inl (hdigit hc)
  · exact .inl (hdigit h)

theorem toString_ne_nil (i : ℤ) : (toString i).toList ≠ [] := by
  rw [toList_toString]
  split
  · exact List.cons_ne_nil _ _
  · exact Nat.toDigits_ne_nil

theorem padded_eq_toDigits_iff {n : ℕ} : padded 4 n = Nat.toDigits 10 n ↔ 1000 ≤ n := by
  have hlength := Nat.length_toDigits_le_iff (n := n) (by decide : 1 < 10) (by decide : 0 < 3)
  rw [padded, List.append_left_eq_self, List.replicate_eq_nil_iff]
  omega

/-- A year is written as in a URL exactly if it has four digits, or more and a minus sign. -/
theorem yearText_eq_iff (year : ℤ) : yearText year = (toString year).toList ↔
    1000 ≤ year ∧ year ≤ 9999 ∨ year ≤ -1000 := by
  have hplus (cs : List Char) : '+' :: cs ≠ Nat.toDigits 10 year.natAbs := by
    intro heq
    have hmem : '+' ∈ padded 0 year.natAbs :=
      List.mem_append_right _ (heq ▸ List.mem_cons_self)
    exact absurd (isDigit_of_mem_padded hmem) (by decide)
  rw [yearText, toList_toString]
  split_ifs with hneg hbig
  · rw [List.cons_inj_right, padded_eq_toDigits_iff]
    omega
  · exact iff_of_false (hplus _) (by omega)
  · rw [padded_eq_toDigits_iff]
    omega

end Date

theorem Disk.dateOf_of_dated {disk : Disk} {today date : Date} {path rest : String}
    (h : Date.Dated (Path.stem path) date rest) : disk.dateOf today path none = date := by
  unfold Disk.dateOf
  dsimp only
  rw [Date.splitStem_eq_iff.mpr h]

namespace Url

def postValues (date : Date) (slug : String) : List (String × String) :=
  [("year", toString date.year), ("month", String.ofList (Date.padded 2 date.month)),
    ("day", String.ofList (Date.padded 2 date.day)), ("slug", slug)]

variable {date : Date} {v : List Char}

theorem plain_postValues (date : Date) (slug : String) :
    ∀ v ∈ postValues date slug, Text.Plain v.1 := by
  intro v hv
  have hnames : ∀ name ∈ ["year", "month", "day", "slug"],
      '{' ∉ name.toList ∧ '}' ∉ name.toList := by decide
  exact hnames v.1 (List.mem_map_of_mem (f := Prod.fst) hv)

/-- A text of digits and dashes that is not empty. -/
def IsNumber (v : List Char) : Prop := v ≠ [] ∧ ∀ c ∈ v, Number.isDigit c = true ∨ c = '-'

theorem isNumber_year (date : Date) : IsNumber (toString date.year).toList :=
  ⟨Date.toString_ne_nil _, fun _ => Date.of_mem_toString⟩

theorem isNumber_padded (width n : ℕ) : IsNumber (Date.padded width n) :=
  ⟨Date.padded_ne_nil _ _, fun _ hc => .inl (Date.isDigit_of_mem_padded hc)⟩

theorem IsNumber.apart {name : String} (h : IsNumber v)
    (hname : (Text.placeholder name).all (fun c => !Number.isDigit c && c != '-') = true) :
    Text.Apart v name := by
  refine ⟨h.1, fun c hc hmem => ?_⟩
  have hother := List.all_eq_true.mp hname c hmem
  rcases h.2 c hc with hdigit | rfl
  · simp [hdigit] at hother
  · simp at hother

/-- The slug may have any characters, because nothing is expanded after it. -/
theorem apart_postValues (date : Date) (slug : String) : (postValues date slug).Pairwise
    fun v w => v.1 ≠ w.1 ∧ Text.Apart v.2.toList w.1 := by
  have hyear := isNumber_year date
  have hmonth := isNumber_padded 2 date.month
  have hday := isNumber_padded 2 date.day
  simp only [postValues, List.pairwise_cons, List.forall_mem_cons, String.toList_ofList]
  exact ⟨⟨⟨by decide, hyear.apart rfl⟩, ⟨by decide, hyear.apart rfl⟩,
      ⟨by decide, hyear.apart rfl⟩, nofun⟩,
    ⟨⟨by decide, hmonth.apart rfl⟩, ⟨by decide, hmonth.apart rfl⟩, nofun⟩,
    ⟨⟨by decide, hday.apart rfl⟩, nofun⟩, nofun, .nil⟩

/-- The URL of a post is its pattern after one pass, in which every placeholder becomes the year,
month, day or slug and everything else is copied. What is put in is never expanded. -/
theorem ofPost_in_one_pass (pattern : String) (date : Date) (slug text : String) :
    Text.Expands (postValues date slug) pattern.toList text.toList ↔
      text = ofPost pattern date slug :=
  Text.expands_iff (plain_postValues date slug) (apart_postValues date slug)

def datePattern : String := "\x7byear\x7d-\x7bmonth\x7d-\x7bday\x7d"

theorem ofPost_datePattern (date : Date) (slug : String) : ofPost datePattern date slug =
    toString date.year ++ "-" ++ String.ofList (Date.padded 2 date.month) ++ "-" ++
      String.ofList (Date.padded 2 date.day) := by
  have hdash {cs out : List Char} (h : Text.Expands (postValues date slug) cs out) :
      Text.Expands (postValues date slug) ('-' :: cs) ('-' :: out) :=
    .copy (fun _ _ => Text.not_prefix_of_ne (by decide) _ _) h
  have hyear : ("year", toString date.year) ∈ postValues date slug := by simp [postValues]
  have hmonth : ("month", String.ofList (Date.padded 2 date.month)) ∈ postValues date slug := by
    simp [postValues]
  have hday : ("day", String.ofList (Date.padded 2 date.day)) ∈ postValues date slug := by
    simp [postValues]
  have hpass := Text.Expands.fill hyear (hdash (.fill hmonth (hdash (.fill hday .nil))))
  have hpattern : datePattern.toList = Text.placeholder "year" ++
      '-' :: (Text.placeholder "month" ++ '-' :: (Text.placeholder "day" ++ [])) := rfl
  refine ((Text.expands_iff (plain_postValues date slug) (apart_postValues date slug)).mp ?_).symm
  rw [hpattern]
  simpa using hpass

theorem ofPost_eq_format_iff (date : Date) (slug : String) :
    ofPost datePattern date slug = date.format ↔
      1000 ≤ date.year ∧ date.year ≤ 9999 ∨ date.year ≤ -1000 := by
  rw [ofPost_datePattern, ← Date.yearText_eq_iff, ← String.toList_inj, Date.format,
    Date.formatChars]
  simp [eq_comm]

variable {disk : Disk} {today : Date} {layouts : Source} {settings : Post.Settings}
  {path rest : String} {cells loaded : Cells} {post : Post}

/-- A post that declares no date has that of its file name. -/
theorem date_of_load [Toolkit]
    (hload : Post.load disk today layouts settings path cells = .ok (post, loaded))
    (hnone : post.options.date = none) (hdated : Date.Dated (Path.stem path) date rest) :
    post.date = date ∧ post.url = ofPost settings.postUrl date (postSlug path) := by
  rw [Post.load_eq] at hload
  cases hdoc : Post.document disk layouts path with
  | error e =>
    rw [hdoc] at hload
    cases hload
  | ok doc =>
    rw [hdoc] at hload
    obtain ⟨rfl, -⟩ := Prod.mk.inj (Except.ok.inj hload)
    have hdate : disk.dateOf today path doc.options.date = date := by
      dsimp only at hnone
      rw [hnone, Disk.dateOf_of_dated hdated]
    dsimp only
    rw [hdate]
    exact ⟨rfl, rfl⟩

/-- With the pattern of a date, the URL of a post is its date as it is written exactly if the year
has four digits without a zero in front, or more than three and a minus sign. So the name of a post
file begins with that URL exactly from the year 1000 on. -/
theorem date_url_iff [Toolkit] (date : Date) (slug : String) :
    (ofPost datePattern date slug = date.format ↔
      1000 ≤ date.year ∧ date.year ≤ 9999 ∨ date.year ≤ -1000) ∧
    ∀ disk today layouts settings path cells post loaded rest,
      Post.load disk today layouts settings path cells = .ok (post, loaded) →
      settings.postUrl = datePattern → post.options.date = none →
      Date.Dated (Path.stem path) date rest →
      post.date = date ∧ (Path.stem path = post.url ++ "-" ++ rest ↔ 1000 ≤ date.year) := by
  refine ⟨ofPost_eq_format_iff date slug, ?_⟩
  intro disk today layouts settings path cells post loaded rest hload hpattern hnone hdated
  obtain ⟨hdate, hurl⟩ := date_of_load hload hnone hdated
  have hspelled : Path.stem path = post.url ++ "-" ++ rest ↔ post.url = date.format := by
    rw [hdated.spelled, String.append_assoc, String.append_assoc]
    exact (String.append_left_inj _).trans eq_comm
  refine ⟨hdate, ?_⟩
  rw [hspelled, hurl, hpattern, ofPost_eq_format_iff]
  have hyear := hdated.year
  omega

/-- Two posts, one from before the year 1000. -/
def chronicle : Disk :=
  ⟨.dir [("0987-06-05-feast.sx", .file "[:p]" 0), ("1066-10-14-battle.sx", .file "[:p]" 0)], []⟩

def byDate : Post.Settings := ⟨datePattern, .nil, []⟩

def feastDay : Date := ⟨987, 6, 5, by decide⟩

def battleDay : Date := ⟨1066, 10, 14, by decide⟩

theorem battle_shows_date : ∃ post loaded,
    Post.load chronicle Date.epoch (.ofList []) byDate "1066-10-14-battle.sx" [] =
      .ok (post, loaded) ∧
    post.options.date = none ∧ Date.Dated "1066-10-14-battle" battleDay "battle" ∧
    post.date = battleDay ∧ "1066-10-14-battle" = post.url ++ "-" ++ "battle" := by
  have hrun : (Post.load chronicle Date.epoch (.ofList []) byDate "1066-10-14-battle.sx"
      []).toOption.map (fun p => p.1.options.date) = some none := by decide +kernel
  have hdated : Date.Dated "1066-10-14-battle" battleDay "battle" :=
    ⟨by decide, by decide, by decide, by decide +kernel⟩
  cases hload : Post.load chronicle Date.epoch (.ofList []) byDate "1066-10-14-battle.sx" [] with
  | error e =>
    rw [hload] at hrun
    cases hrun
  | ok p =>
    obtain ⟨post, loaded⟩ := p
    rw [hload] at hrun
    have hnone : post.options.date = none := Option.some.inj hrun
    obtain ⟨hdate, hname⟩ := (date_url_iff battleDay "").2 _ _ _ _ _ _ _ _ _ hload rfl hnone hdated
    exact ⟨post, loaded, rfl, hnone, hdated, hdate, hname.mpr (by decide)⟩

/-- The year 987 has a zero in front where the date is written, as in the name of the file, and none
in the URL. -/
theorem feast_loses_zero : (0 ≤ feastDay.year ∧ feastDay.year ≤ 9999) ∧
    feastDay.format = "0987-06-05" ∧ ofPost datePattern feastDay "feast" = "987-06-05" ∧
    (Post.load chronicle Date.epoch (.ofList []) byDate "0987-06-05-feast.sx" []).toOption.map
      (fun p => (p.1.date, p.1.url)) = some (feastDay, "987-06-05") := by
  decide +kernel

end Url
end LayeredSite
