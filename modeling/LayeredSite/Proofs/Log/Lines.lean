import LayeredSite.Log.Line
import LayeredSite.Proofs.Text.Cutting
import Mathlib.Order.Bounds.Defs

namespace LayeredSite

namespace Text

variable {limit offset : ℕ} {cs front behind : List Char}

/-- The last offset up to a limit that is not inside a character, found by going back from it. -/
def lastCut (cs : List Char) : ℕ → ℕ
  | 0 => 0
  | limit + 1 => if (splitAtByte? (limit + 1) cs).isSome then limit + 1 else lastCut cs limit

/-- What is in front of the last cut up to a limit, for a text that does not fit; there is nothing
if the text cannot be cut there. -/
def cutBack? (limit : ℕ) (cs : List Char) : Option (List Char) :=
  if byteCount cs ≤ limit then some cs
  else (splitAtByte? (lastCut cs limit) cs).map Prod.fst

theorem byteCount_append (front behind : List Char) :
    byteCount (front ++ behind) = byteCount front + byteCount behind := by
  induction front with
  | nil => simp [byteCount]
  | cons c front ih => rw [List.cons_append, byteCount, ih, byteCount, Nat.add_assoc]

theorem isSome_splitAtByte?_lastCut (cs : List Char) (limit : ℕ) :
    (splitAtByte? (lastCut cs limit) cs).isSome := by
  induction limit with
  | zero => simp [lastCut, splitAtByte?]
  | succ limit ih =>
    rw [lastCut]
    split
    · assumption
    · exact ih

theorem lastCut_le (cs : List Char) (limit : ℕ) : lastCut cs limit ≤ limit := by
  induction limit with
  | zero => exact le_rfl
  | succ limit ih =>
    rw [lastCut]
    split
    · exact le_rfl
    · omega

/-- No cut up to the limit is behind the one that is found. -/
theorem le_lastCut (h : (splitAtByte? offset cs).isSome) (hle : offset ≤ limit) :
    offset ≤ lastCut cs limit := by
  induction limit with
  | zero => exact hle
  | succ limit ih =>
    rw [lastCut]
    split
    · exact hle
    · rename_i hnone
      refine ih (Nat.le_of_lt_succ (Nat.lt_of_le_of_ne hle ?_))
      rintro rfl
      exact hnone h

theorem cutChars_of_le (h : byteCount cs ≤ limit) : cutChars limit cs = cs := by
  induction cs generalizing limit with
  | nil => rfl
  | cons c rest ih =>
    rw [byteCount] at h
    rw [cutChars, if_pos (by omega), ih (by omega)]

/-- Whatever fits in front of a text is in front of its cut. -/
theorem isPrefix_cutChars (h : byteCount front ≤ limit) (behind : List Char) :
    front <+: cutChars limit (front ++ behind) := by
  induction front generalizing limit with
  | nil => exact List.nil_prefix
  | cons c front ih =>
    rw [byteCount] at h
    rw [List.cons_append, cutChars, if_pos (by omega)]
    exact List.cons_prefix_cons.mpr ⟨rfl, ih (by omega)⟩

/-- The cut ends at the last offset that is not inside a character. -/
theorem byteCount_cutChars (h : limit ≤ byteCount cs) :
    byteCount (cutChars limit cs) = lastCut cs limit := by
  refine le_antisymm (le_lastCut ?_ (byteCount_cutChars_le limit cs)) ?_
  · obtain ⟨behind, hcs⟩ := cutChars_isPrefix limit cs
    rw [Option.isSome_iff_exists]
    exact ⟨_, splitAtByte?_eq_some_iff.mpr ⟨hcs.symm, rfl⟩⟩
  · obtain ⟨⟨front, behind⟩, hsplit⟩ :=
      Option.isSome_iff_exists.mp (isSome_splitAtByte?_lastCut cs limit)
    obtain ⟨rfl, hcut⟩ := splitAtByte?_eq_some_iff.mp hsplit
    obtain ⟨more, hmore⟩ := isPrefix_cutChars (hcut ▸ lastCut_le _ limit) behind
    rw [hcut, ← hmore, byteCount_append]
    exact Nat.le_add_right _ _

/-- Going back from the limit comes to the cut, which is no place inside a character. -/
theorem cutBack?_eq (limit : ℕ) (cs : List Char) :
    cutBack? limit cs = some (cutChars limit cs) := by
  unfold cutBack?
  split
  · rename_i hfits
    rw [cutChars_of_le hfits]
  · rename_i hlong
    obtain ⟨behind, hcs⟩ := cutChars_isPrefix limit cs
    have hsplit : splitAtByte? (lastCut cs limit) cs = some (cutChars limit cs, behind) :=
      splitAtByte?_eq_some_iff.mpr ⟨hcs.symm, (byteCount_cutChars (by omega)).symm⟩
    rw [hsplit, Option.map_some]

theorem toList_cut (limit : ℕ) (s : String) : (cut limit s).toList = cutChars limit s.toList :=
  String.toList_ofList

theorem utf8ByteSize_cut_le (limit : ℕ) (s : String) : (cut limit s).utf8ByteSize ≤ limit := by
  rw [← byteCount_toList, toList_cut]
  exact byteCount_cutChars_le limit s.toList

theorem exists_cut_append (limit : ℕ) (s : String) : ∃ behind, s = cut limit s ++ behind := by
  obtain ⟨behind, hs⟩ := cutChars_isPrefix limit s.toList
  refine ⟨String.ofList behind, String.toList_injective ?_⟩
  rw [String.toList_append, toList_cut, String.toList_ofList, hs]

theorem isGreatest_cut (limit : ℕ) (s : String) :
    IsGreatest {n | n ≤ limit ∧ String.Pos.Raw.IsValid s ⟨n⟩} (cut limit s).utf8ByteSize := by
  refine ⟨⟨utf8ByteSize_cut_le limit s, ?_⟩, ?_⟩
  · obtain ⟨behind, hs⟩ := exists_cut_append limit s
    exact String.Pos.Raw.isValid_iff_exists_append.mpr ⟨_, behind, hs, rfl⟩
  · rintro n ⟨hn, hvalid⟩
    obtain ⟨front, behind, rfl, hfront⟩ := String.Pos.Raw.isValid_iff_exists_append.mp hvalid
    obtain rfl : n = front.utf8ByteSize := congrArg String.Pos.Raw.byteIdx hfront
    rw [← byteCount_toList] at hn
    obtain ⟨more, hmore⟩ := isPrefix_cutChars hn behind.toList
    rw [← byteCount_toList, ← byteCount_toList, toList_cut, String.toList_append, ← hmore,
      byteCount_append]
    exact Nat.le_add_right _ _

end Text

namespace LogLine

open Text

theorem text_of_newline {l : LogLine} (h : '\n' ∈ l.message.toList) :
    l.text = head l.channel ++ " " ++ l.message := by
  rw [text, body, if_pos (List.contains_iff_mem.mpr h)]

theorem text_of_line {l : LogLine} (h : '\n' ∉ l.message.toList) :
    l.text = head l.channel ++ " " ++ cut (width - headWidth l.channel) l.message := by
  rw [text, body, if_neg (mt List.contains_iff_mem.mp h)]

theorem utf8ByteSize_head (channel : String) :
    (head channel ++ " ").utf8ByteSize = headWidth channel := by
  simp only [head, String.utf8ByteSize_append, headWidth]
  have hblanks : "[".utf8ByteSize = 1 ∧ "]".utf8ByteSize = 1 ∧ " ".utf8ByteSize = 1 := by decide
  omega

/-- Every text can be cut at every number of bytes: by going back to the beginning of a character,
the longest part in front is found that fits, which is all of a text that does. So a line without
newlines is no wider than the output unless its channel alone is, and any other is shown whole. -/
theorem cut_to_width :
    (∀ (limit : ℕ) (s : String), cutBack? limit s.toList = some (cut limit s).toList ∧
      (∃ behind, s = cut limit s ++ behind) ∧
      IsGreatest {n | n ≤ limit ∧ String.Pos.Raw.IsValid s ⟨n⟩} (cut limit s).utf8ByteSize ∧
      (s.utf8ByteSize ≤ limit → cut limit s = s)) ∧
    ∀ l : LogLine, l.printed false = "\x1b[K" ++ l.text ++ "\n" ∧
      ('\n' ∉ l.message.toList → l.channel.utf8ByteSize ≤ 117 →
        l.text = "[" ++ l.channel ++ "] " ++ cut (117 - l.channel.utf8ByteSize) l.message ∧
        l.text.utf8ByteSize ≤ 120) ∧
      ('\n' ∈ l.message.toList → l.text = "[" ++ l.channel ++ "] " ++ l.message) := by
  have hhead (channel : String) : head channel ++ " " = "[" ++ channel ++ "] " := by
    rw [head, String.append_assoc]
    rfl
  refine ⟨fun limit s => ⟨?_, exists_cut_append limit s, isGreatest_cut limit s, fun h => ?_⟩,
    fun l => ⟨?_, fun hline hchannel => ?_, fun h => ?_⟩⟩
  · rw [cutBack?_eq, toList_cut]
  · rw [← byteCount_toList] at h
    rw [cut, cutChars_of_le h, String.ofList_toList]
  · simp only [printed, text, String.append_assoc]
    rfl
  -- A line has 120 bytes, of which the brackets and the blank around the channel take three.
  · have hlimit : width - headWidth l.channel = 117 - l.channel.utf8ByteSize := by
      rw [width, headWidth]
      omega
    have htext := text_of_line hline
    have hmessage := utf8ByteSize_cut_le (117 - l.channel.utf8ByteSize) l.message
    rw [hlimit] at htext
    refine ⟨by rw [htext, hhead], ?_⟩
    rw [htext, String.utf8ByteSize_append, utf8ByteSize_head, headWidth]
    omega
  · rw [text_of_newline h, hhead]

/-- Of 40 characters of three bytes each, 37 fit behind the channel; one byte is left. -/
theorem cut_to_width_of_wide_characters :
    let l : LogLine := ⟨"build", String.ofList (List.replicate 40 '重')⟩
    '\n' ∉ l.message.toList ∧ l.channel.utf8ByteSize ≤ 117 ∧
      l.text = "[build] " ++ String.ofList (List.replicate 37 '重') ∧ l.text.utf8ByteSize ≤ 120 := by
  intro l
  have hline : '\n' ∉ l.message.toList := by decide +kernel
  have hchannel : l.channel.utf8ByteSize ≤ 117 := by decide +kernel
  obtain ⟨htext, hwidth⟩ := (cut_to_width.2 l).2.1 hline hchannel
  have hcut : cut (117 - l.channel.utf8ByteSize) l.message =
      String.ofList (List.replicate 37 '重') := by decide +kernel
  refine ⟨hline, hchannel, ?_, hwidth⟩
  rw [htext, hcut]
  rfl

end LogLine
end LayeredSite
