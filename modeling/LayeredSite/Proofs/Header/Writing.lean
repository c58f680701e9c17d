import LayeredSite.Proofs.Date.ReadBack
import LayeredSite.Proofs.Header.Settings

namespace LayeredSite

namespace Header

open Text

variable {cs front mid behind : List Char} {name : String} {e : String × String}
  {entries : List (String × String)} {o : DocumentOptions}

@[mk_iff]
structure IsValue (cs : List Char) : Prop where
  head : ∀ c ∈ cs.head?, isBlank c = false
  last : ∀ c ∈ cs.getLast?, isBlank c = false
  newline : '\n' ∉ cs

instance (cs : List Char) : Decidable (IsValue cs) :=
  decidable_of_iff (cs.head?.all (!isBlank ·) ∧ cs.getLast?.all (!isBlank ·) ∧ '\n' ∉ cs)
    (by simp [isValue_iff, Option.all_eq_true])

theorem IsValue.of_solid (h : ∀ c ∈ cs, isBlank c = false) : IsValue cs where
  head c hc := h c (List.mem_of_head? hc)
  last c hc := h c (List.mem_of_getLast? hc)
  newline hc := absurd (h _ hc) (by decide)

theorem IsValue.append (hfront : IsValue front) (hbehind : IsValue behind) (hne : front ≠ [])
    (hne' : behind ≠ []) (hmid : '\n' ∉ mid) : IsValue (front ++ mid ++ behind) where
  head := by
    rw [List.append_assoc, List.head?_append_of_ne_nil _ hne]
    exact hfront.head
  last := by
    rw [List.getLast?_append_of_ne_nil _ hne']
    exact hbehind.last
  newline := by simp [hfront.newline, hmid, hbehind.newline]

@[mk_iff]
structure IsTagName (name : String) : Prop where
  nonempty : name.toList ≠ []
  solid : ∀ c ∈ name.toList, c ≠ ',' ∧ isBlank c = false

instance (name : String) : Decidable (IsTagName name) :=
  decidable_of_iff (name.toList ≠ [] ∧ name.toList.all fun c => c ≠ ',' ∧ isBlank c = false)
    (by simp [isTagName_iff])

/-- What stands in front of the colon: not empty, without colons and blanks, and the semicolons in
front of it are none of its own. -/
@[mk_iff]
structure IsKey (key : String) : Prop where
  nonempty : key.toList ≠ []
  head : key.toList.head? ≠ some ';'
  solid : ∀ c ∈ key.toList, c ≠ ':' ∧ isBlank c = false

instance (key : String) : Decidable (IsKey key) :=
  decidable_of_iff (key.toList ≠ [] ∧ key.toList.head? ≠ some ';' ∧
    key.toList.all fun c => c ≠ ':' ∧ isBlank c = false) (by simp [isKey_iff])

def writeLine (e : String × String) : String := ";" ++ e.1 ++ ":" ++ e.2 ++ "\n"

def write (entries : List (String × String)) : String := String.join (entries.map writeLine)

theorem toList_writeLine (e : String × String) :
    (writeLine e).toList = ';' :: (e.1.toList ++ ':' :: e.2.toList) ++ ['\n'] := by
  simp [writeLine]

theorem toList_write_cons (e : String × String) (entries : List (String × String)) :
    (write (e :: entries)).toList = (writeLine e).toList ++ (write entries).toList := by
  simp [write, String.join_cons]

/-- A written line gives its value to its key. -/
theorem setting?_writeLine (h : IsKey e.1) :
    setting? (writeLine e).toList = some (e.1, trim e.2.toList) := by
  have hline := @Keyed.of [] [';'] e.1.toList (e.2.toList ++ ['\n']) (by simp) (by simp) (by simp)
    h.head fun hc => (h.solid _ hc).1 rfl
  have hkeyed : Keyed (writeLine e).toList e.1.toList (e.2.toList ++ ['\n']) := by
    simpa [toList_writeLine] using hline
  have hvalue := IsValue.of_solid fun c hc => (h.solid c hc).2
  rw [hkeyed.setting?, trim_eq_self hvalue.head hvalue.last, trim_newline, String.ofList_toList,
    if_neg]
  simpa using ⟨String.toList_eq_nil_iff.not.mp h.nonempty, fun c hc => (h.solid c hc).2⟩

theorem isHeaderLine_semicolon (cs : List Char) : isHeaderLine (';' :: cs) = true :=
  isHeaderLine_eq_true_iff.mpr (.inr ⟨[], cs, rfl, by simp⟩)

/-- Written lines are in front of the header of what follows, and the body is the one of that. -/
theorem header_write (h : ∀ e ∈ entries, IsKey e.1 ∧ '\n' ∉ e.2.toList) (body : List Char) :
    headerLines ((write entries).toList ++ body) =
        entries.map (fun e => (writeLine e).toList) ++ headerLines body ∧
      bodyChars ((write entries).toList ++ body) = bodyChars body := by
  induction entries with
  | nil => exact ⟨rfl, rfl⟩
  | cons e entries ih =>
    obtain ⟨⟨hkey, hvalue⟩, hentries⟩ := List.forall_mem_cons.mp h
    obtain ⟨hlines, hbody⟩ := ih hentries
    have hkey' : '\n' ∉ e.1.toList := (IsValue.of_solid fun c hc => (hkey.solid c hc).2).newline
    have hnewline : '\n' ∉ ';' :: (e.1.toList ++ ':' :: e.2.toList) := by simp [hkey', hvalue]
    have hcons : (write (e :: entries)).toList ++ body =
        (';' :: (e.1.toList ++ ':' :: e.2.toList)) ++ '\n' :: ((write entries).toList ++ body) := by
      simp [toList_write_cons, toList_writeLine]
    rw [hcons, headerLines_newline hnewline (isHeaderLine_semicolon _),
      bodyChars_newline hnewline (isHeaderLine_semicolon _), hlines, hbody, List.map_cons,
      toList_writeLine]
    exact ⟨rfl, rfl⟩

theorem values_write (h : ∀ e ∈ entries, IsKey e.1) (keys : List String) :
    values keys (entries.map fun e => (writeLine e).toList) =
      entries.filterMap fun (k, v) => if k ∈ keys then some (trim v.toList) else none := by
  rw [values, List.filterMap_map]
  refine List.filterMap_congr fun e he => ?_
  rw [Function.comp_apply, setting?_writeLine (h e he), Option.bind_some]

theorem IsTagName.not_cut (h : IsTagName name) :
    ∀ c ∈ name.toList, (c == ',' || isBlank c) = false := fun c hc => by
  simp [h.solid c hc]

theorem tagNames_name (h : IsTagName name) : DocumentOptions.tagNames name.toList = [name] := by
  rw [DocumentOptions.tagNames, splitOn_of_forall h.not_cut]
  simp [h.nonempty]

theorem tagNames_comma (h : IsTagName name) (behind : List Char) :
    DocumentOptions.tagNames (name.toList ++ ',' :: ' ' :: behind) =
      name :: DocumentOptions.tagNames behind := by
  have hspace : splitOn (fun c => c == ',' || isBlank c) ([] ++ ' ' :: behind) =
      [] :: splitOn (fun c => c == ',' || isBlank c) behind :=
    splitOn_append_cons (by simp) (by decide) behind
  rw [DocumentOptions.tagNames, splitOn_append_cons h.not_cut (by decide),
    ← List.nil_append (' ' :: behind), hspace]
  simp [DocumentOptions.tagNames, h.nonempty]

theorem toList_intercalate_cons (name other : String) (tags : List String) :
    (", ".intercalate (name :: other :: tags)).toList =
      name.toList ++ ',' :: ' ' :: (", ".intercalate (other :: tags)).toList := by
  simp [String.toList_intercalate]

/-- Names that are joined by commas are the names of a tag line. -/
theorem tagNames_intercalate {tags : List String} (h : ∀ name ∈ tags, IsTagName name) :
    DocumentOptions.tagNames (", ".intercalate tags).toList = tags := by
  induction tags with
  | nil => rfl
  | cons name tags ih =>
    obtain ⟨hname, htags⟩ := List.forall_mem_cons.mp h
    cases tags with
    | nil => exact tagNames_name hname
    | cons other tags => rw [toList_intercalate_cons, tagNames_comma hname, ih htags]

theorem isValue_intercalate {tags : List String} (h : ∀ name ∈ tags, IsTagName name)
    (hne : tags ≠ []) :
    (", ".intercalate tags).toList ≠ [] ∧ IsValue (", ".intercalate tags).toList := by
  induction tags with
  | nil => exact absurd rfl hne
  | cons name tags ih =>
    obtain ⟨hname, htags⟩ := List.forall_mem_cons.mp h
    have hvalue := IsValue.of_solid fun c hc => (hname.solid c hc).2
    cases tags with
    | nil => exact ⟨hname.nonempty, hvalue⟩
    | cons other tags =>
      obtain ⟨hne', hvalue'⟩ := ih htags (List.cons_ne_nil _ _)
      have happend := hvalue.append hvalue' hname.nonempty hne' (by decide : '\n' ∉ [',', ' '])
      rw [toList_intercalate_cons]
      exact ⟨by simp, by simpa using happend⟩

end Header

def DocumentOptions.fields (o : DocumentOptions) : List (String × Option String) :=
  [("layout", o.layout), ("title", o.title),
    ("tag", if o.tags = [] then none else some (", ".intercalate o.tags)),
    ("format", o.format.map Dialect.name), ("date", o.date.map Date.format)]

def DocumentOptions.entries (o : DocumentOptions) : List (String × String) :=
  o.fields.flatMap fun (key, value) => (value.map (key, ·)).toList

namespace Header
open Text

variable {entries : List (String × String)} {o : DocumentOptions}

@[mk_iff]
structure Writable (o : DocumentOptions) : Prop where
  layout : ∀ s ∈ o.layout, s ≠ "" ∧ IsValue s.toList
  title : ∀ s ∈ o.title, IsValue s.toList
  tags : ∀ name ∈ o.tags, IsTagName name

instance (o : DocumentOptions) : Decidable (Writable o) := decidable_of_iff' _ (writable_iff o)

theorem mem_entries {key value : String} :
    (key, value) ∈ o.entries ↔ (key, some value) ∈ o.fields := by
  simp [DocumentOptions.entries]

theorem isKey_of_mem {e : String × String} (h : e ∈ o.entries) : IsKey e.1 := by
  have hkey : e.1 ∈ o.fields.map Prod.fst := List.mem_map.mpr ⟨_, mem_entries.mp h, rfl⟩
  have hall : ∀ key ∈ ["layout", "title", "tag", "format", "date"], IsKey key := by decide
  exact hall e.1 hkey

theorem Writable.isValue (h : Writable o) {e : String × String} (he : e ∈ o.entries) :
    IsValue e.2.toList := by
  obtain ⟨key, value⟩ := e
  have hfield := mem_entries.mp he
  simp only [DocumentOptions.fields, List.mem_cons, Prod.mk.injEq, List.not_mem_nil, or_false]
    at hfield
  rcases hfield with ⟨-, hv⟩ | ⟨-, hv⟩ | ⟨-, hv⟩ | ⟨-, hv⟩ | ⟨-, hv⟩
  · exact (h.layout _ hv.symm).2
  · exact h.title _ hv.symm
  · split_ifs at hv with htags
    obtain rfl := Option.some.inj hv
    exact (isValue_intercalate h.tags htags).2
  · obtain ⟨f, -, rfl⟩ := Option.map_eq_some_iff.mp hv.symm
    have hall : ∀ f : Dialect, IsValue f.name.toList := by
      rintro (_ | _ | _) <;> decide
    exact hall f
  · obtain ⟨d, -, rfl⟩ := Option.map_eq_some_iff.mp hv.symm
    refine .of_solid fun c hc => ?_
    rw [Date.format, String.toList_ofList] at hc
    rcases Date.of_mem_formatChars hc with hdigit | rfl | rfl
    · exact Date.not_isBlank_of_isDigit hdigit
    · rfl
    · rfl

/-- The values of a key are those of its field, in whatever order the lines stand. -/
theorem Writable.values (h : Writable o) (hperm : entries.Perm o.entries) (keys : List String)
    (value : Option String)
    (hfields : o.fields.flatMap (fun (k, v) => if k ∈ keys then v.toList else []) = value.toList) :
    values keys (entries.map fun e => (writeLine e).toList) = (value.map String.toList).toList := by
  have hkeys : ∀ e ∈ entries, IsKey e.1 := fun e he => isKey_of_mem (hperm.subset he)
  have htrim : ∀ e ∈ entries, trim e.2.toList = e.2.toList := fun e he =>
    trim_eq_self (h.isValue (hperm.subset he)).head (h.isValue (hperm.subset he)).last
  rw [values_write hkeys]
  have hvalues : entries.filterMap
      (fun (k, v) => if k ∈ keys then some (trim v.toList) else none) =
      (entries.filterMap fun (k, v) => if k ∈ keys then some v else none).map String.toList := by
    rw [List.map_filterMap]
    refine List.filterMap_congr fun e he => ?_
    by_cases hk : e.1 ∈ keys <;> simp [hk, htrim e he]
  have hentries : (entries.filterMap fun (k, v) => if k ∈ keys then some v else none).Perm
      value.toList := by
    refine (hperm.filterMap _).trans (.of_eq ?_)
    rw [← hfields, DocumentOptions.entries, List.filterMap_flatMap]
    refine List.flatMap_congr fun (k, v) _ => ?_
    cases v <;> by_cases hk : k ∈ keys <;> simp [hk]
  rw [hvalues]
  cases value with
  | none => rw [List.perm_nil.mp hentries]; rfl
  | some v => rw [List.perm_singleton.mp hentries]; rfl

/-- Written options are the options after their lines. -/
theorem Writable.after (h : Writable o) (hperm : entries.Perm o.entries) :
    ({} : DocumentOptions).after (entries.map fun e => (writeLine e).toList) = o := by
  have hlayout := h.values hperm ["layout"] o.layout (by simp [DocumentOptions.fields])
  have htitle := h.values hperm ["title"] o.title (by simp [DocumentOptions.fields])
  have htags := h.values hperm ["tag", "tags"]
    (if o.tags = [] then none else some (", ".intercalate o.tags))
    (by simp [DocumentOptions.fields])
  have hformat := h.values hperm ["format"] (o.format.map Dialect.name)
    (by simp [DocumentOptions.fields])
  have hdate := h.values hperm ["date"] (o.date.map Date.format) (by simp [DocumentOptions.fields])
  cases o with
  | mk layout title tags format date =>
    rw [DocumentOptions.after, DocumentOptions.mk.injEq]
    refine ⟨?_, ?_, ?_, ?_, ?_⟩
    · rw [hlayout]
      cases layout with
      | none => rfl
      | some s => simp [(h.layout s rfl).1]
    · rw [htitle]
      cases title <;> simp
    · rw [htags]
      by_cases hnil : tags = []
      · simp [hnil]
      · simpa [hnil] using tagNames_intercalate h.tags
    · rw [hformat]
      cases format with
      | none => rfl
      | some f => cases f <;> rfl
    · rw [hdate]
      cases date with
      | none => rfl
      | some d => simp [Date.format, Date.parseChars_formatChars]

/-- Options are read back from their lines, written in any order, and the body from what stands
behind them, exactly if its first line is neither blank nor has a semicolon behind blanks. -/
theorem parse_write (h : Writable o) (hperm : entries.Perm o.entries) (body : String) :
    parse (write entries ++ body) = (o, body) ↔
      ∀ line ∈ (lines body.toList).head?, ¬ IsLine line := by
  have hentries : ∀ e ∈ entries, IsKey e.1 ∧ '\n' ∉ e.2.toList := fun e he =>
    ⟨isKey_of_mem (hperm.subset he), (h.isValue (hperm.subset he)).newline⟩
  obtain ⟨hlines, hbody⟩ := header_write hentries body.toList
  rw [← headerLines_eq_nil_iff, parse, String.toList_append, optionsOf_eq_after, hlines, hbody]
  constructor
  · intro hparse
    have hsame : bodyChars body.toList = body.toList :=
      (toList_parse body).symm.trans (congrArg String.toList (Prod.mk.inj hparse).2)
    rw [← hsame]
    exact (ends body.toList).body
  · intro hnone
    rw [hnone, List.append_nil, h.after hperm, bodyChars_of_headerLines hnone, String.ofList_toList]

/-- All five options, in an order of their own, in front of a body with a semicolon further down. -/
theorem shuffled_lines_read_back :
    parse (write [("date", "2024-02-29"), ("tag", "rust, web"), ("layout", "base: wide"),
      ("format", "xhtml"), ("title", "")] ++ "[:p]\n;title:b\n") =
    (⟨some "base: wide", some "", ["rust", "web"], some .xhtml, some ⟨2024, 2, 29, rfl⟩⟩,
      "[:p]\n;title:b\n") := by
  have hwritable : Writable ⟨some "base: wide", some "", ["rust", "web"], some .xhtml,
      some ⟨2024, 2, 29, rfl⟩⟩ := by decide
  refine (parse_write hwritable (by decide +kernel) "[:p]\n;title:b\n").mpr ?_
  rw [← headerLines_eq_nil_iff]
  decide +kernel

/-- A line that begins with a blank and not with a semicolon can belong to the header, so it is not
always the body that comes back. -/
theorem indented_line_not_read_back :
    Writable { title := some "a" } ∧
      [("title", "a")].Perm ({ title := some "a" } : DocumentOptions).entries ∧
      (∀ line ∈ (lines " ;layout:b\n[:p]".toList).head?,
        (∃ c ∈ line, isBlank c = false) ∧ line.head? ≠ some ';') ∧
      parse (write [("title", "a")] ++ " ;layout:b\n[:p]") =
        ({ title := some "a", layout := some "b" }, "[:p]") := by
  refine ⟨by decide, by decide +kernel, ?_, by decide +kernel⟩
  have hline : (lines " ;layout:b\n[:p]".toList).head? = some " ;layout:b\n".toList := by
    decide +kernel
  rw [hline]
  rintro line ⟨⟩
  exact ⟨⟨';', by decide, rfl⟩, by decide⟩

end Header
end LayeredSite
