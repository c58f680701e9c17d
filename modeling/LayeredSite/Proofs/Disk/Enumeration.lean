import LayeredSite.Proofs.Disk.Covered
import Mathlib.Data.List.Lex

namespace LayeredSite

open LayeredSite.Path

namespace Path

def Component.rank : Component → ℕ
  | root => 0
  | current => 1
  | parent => 2
  | name _ => 3

/-- The root comes first, then `.`, then `..`, and then the names in the order of their
characters. -/
def Component.Before : Component → Component → Prop
  | name s, name t => s < t
  | c, c' => c.rank < c'.rank

def Precedes (a b : String) : Prop := List.Lex Component.Before (components a) (components b)

theorem Component.not_before_self (c : Component) : ¬ c.Before c := by
  cases c with
  | name s => exact String.lt_irrefl s
  | _ => exact Nat.lt_irrefl _

theorem Precedes.ne {a b : String} (h : Precedes a b) : a ≠ b := by
  rintro rfl
  exact List.lex_irrefl Component.not_before_self _ h

theorem components_foldl_join {names : List String} {dir : String} (hdir : dir ≠ "")
    (h : ∀ name ∈ names, IsName name) :
    components (names.foldl join dir) = components dir ++ names.map .name := by
  by_cases hne : names = []
  · rw [hne]
    exact (List.append_nil _).symm
  · have hrelative := isAbsolute_names hne h
    rw [foldl_join_eq hne h, components_join hdir hrelative, moves, segments_names hne h,
      List.filterMap_map, ← List.filterMap_eq_map]
    exact congrArg _ (List.filterMap_congr fun name hname => component?_of_isName (h name hname))

end Path

namespace Disk

variable {d : Disk} {n m : Node} {skip : Bool} {names : List String}
  {name path dir extension : String} {entries : List (String × Node)}

theorem Ahead.precedes {a b : String} (hdir : dir ≠ "") (h : Ahead dir a b) : Precedes a b := by
  obtain ⟨names, names', hnames, hnames', hlex, rfl, rfl⟩ := h
  rw [Precedes, components_foldl_join hdir hnames, components_foldl_join hdir hnames']
  refine List.Lex.append_left _ ?_ _
  clear hnames hnames'
  induction hlex with
  | nil => exact .nil
  | cons _ ih => exact .cons ih
  | rel hlt => exact .rel hlt

/-- A file that a listing of the directory is to have: its name is a stem, a dot and the extension,
and directories with an underscore may have to be avoided on the way to it. -/
structure Node.Enumerates (n : Node) (extension : String) (skip : Bool) (names : List String) :
    Prop where
  file : ∃ text time, n.get names = .ok (.file text time)
  name : ∃ stem, stem ≠ "" ∧ '.' ∉ extension.toList ∧
    names.getLast? = some (stem ++ "." ++ extension)
  visible : skip = true → ∀ name ∈ names.dropLast, name.toList.head? ≠ some '_'

/-- What is there is reached by names that a directory can hold. -/
theorem Node.isName_of_get (hproper : n.Proper) (h : n.get names = .ok m) :
    ∀ name ∈ names, IsName name := by
  induction names generalizing n with
  | nil => exact fun _ hname => absurd hname List.not_mem_nil
  | cons name rest ih =>
    cases n with
    | file text time => cases h
    | dir entries =>
      rw [get] at h
      split at h
      · rename_i child hchild
        have hmem := Fields.mem_of_get? hchild
        exact List.forall_mem_cons.mpr
          ⟨isName_of_mem hproper.2 hmem, ih (proper_of_mem hproper.2 hmem) h⟩
      · cases h

theorem Node.lists_iff (hproper : n.Proper) : n.Lists skip names ↔
    (∃ text time, n.get names = .ok (.file text time)) ∧
      (skip = true → ∀ name ∈ names.dropLast, name.toList.head? ≠ some '_') :=
  ⟨fun h => ⟨h.file, h.visible⟩, fun ⟨⟨text, time, hfile⟩, hvisible⟩ =>
    ⟨isName_of_get hproper hfile, ⟨text, time, hfile⟩, hvisible⟩⟩

/-- The extension of a path behind a directory is that of its last name. -/
theorem extension?_foldl_join (h : ∀ name ∈ names, IsName name) (hne : names ≠ []) :
    Path.extension? (names.foldl join dir) = some extension ↔
      ∃ stem, stem ≠ "" ∧ '.' ∉ extension.toList ∧
        names.getLast? = some (stem ++ "." ++ extension) := by
  obtain ⟨init, last, rfl⟩ := (List.eq_nil_or_concat' names).resolve_left hne
  have hname : fileName? ((init ++ [last]).foldl join dir) = some last := by
    refine fileName?_eq_some_iff.mpr ⟨moves dir ++ init.map .name, ?_⟩
    rw [(moves_of_names h dir).2, List.map_append, List.append_assoc]
    rfl
  have hsplit : (splitName last).2 = some extension ↔
      ∃ stem, splitName last = (stem, some extension) :=
    ⟨fun he => ⟨_, Prod.ext rfl he⟩, fun ⟨_, he⟩ => he ▸ rfl⟩
  rw [Path.extension?, hname, Option.bind_some, hsplit, List.getLast?_concat]
  refine exists_congr fun stem => ?_
  rw [splitName_eq_iff, Option.some_inj]
  tauto

theorem node_empty : d.node "" = .error .notFound := rfl

/-- A listing of a directory has exactly the files that it is to have, in the order of their paths
and each once; where nothing is, it has none. -/
theorem listing_exact_and_ordered (hproper : d.root.Proper) (dir extension : String)
    (skip : Bool) :
    (∀ entries, d.node dir = .ok (.dir entries) → ∀ path,
      path ∈ d.listFiles dir extension skip ↔
        ∃ names, (Node.dir entries).Enumerates extension skip names ∧
          path = names.foldl join dir) ∧
    (d.listFiles dir extension skip).Pairwise Precedes ∧
    (d.listFiles dir extension skip).Nodup ∧
    (d.exists_ dir = false → d.listFiles dir extension skip = []) := by
  -- The order gives also that no path is listed twice.
  have hordered : (d.listFiles dir extension skip).Pairwise Precedes := by
    by_cases hdir : dir = ""
    · rw [hdir, listFiles, node_empty]
      exact .nil
    · exact (ahead_listFiles hproper dir extension skip).imp (Ahead.precedes hdir)
  refine ⟨fun entries hnode path => ?_, hordered, hordered.imp Precedes.ne, fun hmissing => ?_⟩
  · obtain ⟨place, -, hget⟩ := exists_of_bind_eq_ok hnode
    have hbelow := Node.proper_of_get hproper hget
    have hnames {names : List String} (h : (Node.dir entries).Lists skip names) : names ≠ [] := by
      rintro rfl
      obtain ⟨text, time, hfile⟩ := h.file
      cases hfile
    rw [listFiles, hnode, List.mem_filter, beq_iff_eq]
    constructor
    · rintro ⟨hwalk, hext⟩
      obtain ⟨names, hlists, rfl⟩ := mem_walk skip path _ hbelow dir hwalk
      have hname := (extension?_foldl_join hlists.isName (hnames hlists)).mp hext
      exact ⟨names, ⟨hlists.file, hname, hlists.visible⟩, rfl⟩
    · rintro ⟨names, ⟨hfile, hname, hvisible⟩, rfl⟩
      have hlists := (Node.lists_iff hbelow).mpr ⟨hfile, hvisible⟩
      exact ⟨hlists.mem_walk dir, (extension?_foldl_join hlists.isName (hnames hlists)).mpr hname⟩
  · unfold exists_ at hmissing
    rw [listFiles]
    split
    · rename_i n hn
      rw [hn] at hmissing
      cases hmissing
    · rfl

def shelf : Disk where
  root := .dir [("_top", .dir [
    ("_d", .dir [("x.sx", .file "" 0)]),
    ("_f.sx", .file "" 0),
    ("a", .dir [(".sx", .file "" 0), ("b.sx", .file "" 0)]),
    ("a-b", .dir [("c.sx", .file "" 0)]),
    ("a.sx", .file "" 0),
    ("a.txt", .file "" 0)])]
  current := []

/-- The directory `a` is in front of `a-b` and of `a.sx`, although `/` is behind `-` and `.`. -/
theorem shelf_exact_and_ordered : shelf.root.Proper ∧
    shelf.listFiles "_top" "sx" true =
      ["_top/_f.sx", "_top/a/b.sx", "_top/a-b/c.sx", "_top/a.sx"] ∧
    (shelf.listFiles "_top" "sx" true).Pairwise Precedes ∧
    shelf.listFiles "nope" "sx" true = [] := by
  have hproper : shelf.root.Proper := by decide +kernel
  exact ⟨hproper, by decide +kernel, (listing_exact_and_ordered hproper "_top" "sx" true).2.1,
    (listing_exact_and_ordered hproper "nope" "sx" true).2.2.2 (by decide +kernel)⟩

end Disk
end LayeredSite
