import LayeredSite.Text.Escape
import Mathlib.Data.List.Basic

namespace LayeredSite.Text

theorem escapeChars_cons (c : Char) (cs : List Char) :
    escapeChars (c :: cs) = entityOf c ++ escapeChars cs := by
  simp only [escapeChars_eq_flatMap, List.flatMap_cons]

theorem mem_entityOf {c d : Char} (h : d ∈ entityOf c) : d ≠ '<' ∧ d ≠ '>' ∧ d ≠ '"' := by
  unfold entityOf at h
  split at h
  case h_5 hamp hquot hlt hgt =>
    obtain rfl := List.mem_singleton.mp h
    exact ⟨hlt, hgt, hquot⟩
  all_goals refine ⟨?_, ?_, ?_⟩ <;> rintro rfl <;> simp at h

theorem mem_escapeChars {cs : List Char} {d : Char} (h : d ∈ escapeChars cs) :
    d ≠ '<' ∧ d ≠ '>' ∧ d ≠ '"' := by
  rw [escapeChars_eq_flatMap, List.mem_flatMap] at h
  obtain ⟨c, -, hd⟩ := h
  exact mem_entityOf hd

/-- Only an ampersand begins an entity. -/
theorem unescapeChars_cons {c : Char} (h : c ≠ '&') (rest : List Char) :
    unescapeChars (c :: rest) = c :: unescapeChars rest := by
  rw [unescapeChars]
  all_goals
    intros
    simp_all

theorem unescapeChars_entityOf_append (c : Char) (rest : List Char) :
    unescapeChars (entityOf c ++ rest) = c :: unescapeChars rest := by
  unfold entityOf
  split
  case h_5 hamp _ _ _ => exact unescapeChars_cons hamp rest
  all_goals rfl

theorem unescapeChars_escapeChars_append (cs rest : List Char) :
    unescapeChars (escapeChars cs ++ rest) = cs ++ unescapeChars rest := by
  induction cs with
  | nil => rfl
  | cons c cs ih =>
    rw [escapeChars_cons, List.append_assoc, unescapeChars_entityOf_append, ih, List.cons_append]

theorem unescapeChars_escapeChars (cs : List Char) : unescapeChars (escapeChars cs) = cs := by
  have h := unescapeChars_escapeChars_append cs []
  rwa [List.append_nil, unescapeChars, List.append_nil] at h

/-- The only ampersand in what is written for a character is its first character, and then that is
an entity. -/
theorem entity_of_ampersand_mem {c : Char} {front back : List Char}
    (h : entityOf c = front ++ '&' :: back) :
    front = [] ∧ ∃ e ∈ entities, entityOf c = e.2.toList := by
  have hfront {entity : List Char} (hword : '&' ∉ entity)
      (he : '&' :: entity = front ++ '&' :: back) : front = [] := by
    cases front with
    | nil => rfl
    | cons d front =>
      rw [(List.cons.inj he).2] at hword
      simp at hword
  unfold entityOf at h ⊢
  split at h
  · exact ⟨hfront (by decide) h, ('&', "&amp;"), by decide, rfl⟩
  · exact ⟨hfront (by decide) h, ('"', "&quot;"), by decide, rfl⟩
  · exact ⟨hfront (by decide) h, ('<', "&lt;"), by decide, rfl⟩
  · exact ⟨hfront (by decide) h, ('>', "&gt;"), by decide, rfl⟩
  · rename_i hamp _ _ _
    have hmem : '&' ∈ [c] := h ▸ List.mem_append_right front List.mem_cons_self
    exact absurd (List.mem_singleton.mp hmem).symm hamp

/-- In an escaped text an entity stands wherever there is an ampersand. -/
theorem entity_at_ampersand {cs before after : List Char}
    (h : escapeChars cs = before ++ '&' :: after) :
    ∃ e ∈ entities, e.2.toList <+: '&' :: after := by
  induction cs generalizing before with
  | nil => simp [escapeChars] at h
  | cons c cs ih =>
    -- The ampersand belongs to what is written for the first character, or stands behind that.
    rw [escapeChars_cons] at h
    rcases List.append_eq_append_iff.mp h with ⟨between, hbefore, hrest⟩ | ⟨back, hfirst, hafter⟩
    · exact ih hrest
    · cases back with
      | nil =>
        have hrest : escapeChars cs = [] ++ '&' :: after := hafter.symm
        exact ih hrest
      | cons d back =>
        obtain rfl := (List.cons.inj hafter).1
        obtain ⟨rfl, e, he, hentity⟩ := entity_of_ampersand_mem hfirst
        refine ⟨e, he, escapeChars cs, ?_⟩
        rw [← hentity, hfirst, hafter, List.nil_append]

/-- Escaping is one substitution for the characters of a text, each by itself, and it can be undone:
what is left of special characters are the ampersands of its entities, and reading these back in one
pass gives the text. -/
theorem escape_is_substitution (s t : String) :
    (escape s).toList = s.toList.flatMap entityOf ∧
      escape (s ++ t) = escape s ++ escape t ∧
      (∀ c ∈ (escape s).toList, c ≠ '<' ∧ c ≠ '>' ∧ c ≠ '"') ∧
      (∀ before after, (escape s).toList = before ++ '&' :: after →
        ∃ e ∈ entities, e.2.toList <+: '&' :: after) ∧
      unescape (escape s) = s ∧
      (escape s = escape t ↔ s = t) := by
  have hback (s : String) : unescape (escape s) = s := by
    rw [unescape, toList_escape, unescapeChars_escapeChars, String.ofList_toList]
  refine ⟨?_, ?_, fun c hc => ?_, fun before after h => ?_, hback s, fun h => ?_, fun h => h ▸ rfl⟩
  · rw [toList_escape, escapeChars_eq_flatMap]
  · rw [escape, String.toList_append, escapeChars_append, String.ofList_append]
    rfl
  · rw [toList_escape] at hc
    exact mem_escapeChars hc
  · rw [toList_escape] at h
    exact entity_at_ampersand h
  · rw [← hback s, h, hback]

example : escape "&lt; <" = "&amp;lt; &lt;" := by decide

end LayeredSite.Text
