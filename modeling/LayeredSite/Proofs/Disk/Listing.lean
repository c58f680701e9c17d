import LayeredSite.Disk.Basic
import LayeredSite.Proofs.Disk.Looks
import LayeredSite.Proofs.Fields

namespace LayeredSite

open LayeredSite.Path

namespace Disk

namespace Node

mutual

/-- The entries of a directory have different names, in their order, and each name is one that a
directory can hold. -/
def Proper : Node → Prop
  | file _ _ => True
  | dir entries => Fields.Sorted entries ∧ ProperAll entries

def ProperAll : List (String × Node) → Prop
  | [] => True
  | (name, n) :: rest => IsName name ∧ n.Proper ∧ ProperAll rest

end

mutual

def decidableProper : (n : Node) → Decidable n.Proper
  | file _ _ => .isTrue trivial
  | dir entries =>
    have : Decidable (ProperAll entries) := decidableProperAll entries
    have : Decidable (Fields.Sorted entries) :=
      inferInstanceAs (Decidable (List.Pairwise (· < ·) (Fields.keys entries)))
    inferInstanceAs (Decidable (Fields.Sorted entries ∧ ProperAll entries))

def decidableProperAll : (entries : List (String × Node)) → Decidable (ProperAll entries)
  | [] => .isTrue trivial
  | (name, n) :: rest =>
    have : Decidable n.Proper := decidableProper n
    have : Decidable (ProperAll rest) := decidableProperAll rest
    inferInstanceAs (Decidable (IsName name ∧ n.Proper ∧ ProperAll rest))

end

instance : DecidablePred Proper := decidableProper

theorem properAll_iff {entries : List (String × Node)} :
    ProperAll entries ↔ ∀ e ∈ entries, IsName e.1 ∧ e.2.Proper := by
  induction entries with
  | nil => exact ⟨fun _ _ h => absurd h List.not_mem_nil, fun _ => trivial⟩
  | cons e rest ih => rw [ProperAll, ih, List.forall_mem_cons, and_assoc]

/-- A file below a node; where directories with a leading underscore are left out, it is in none of
them. -/
structure Lists (n : Node) (skip : Bool) (names : List String) : Prop where
  isName : ∀ name ∈ names, IsName name
  file : ∃ text time, n.get names = .ok (.file text time)
  visible : skip = true → ∀ name ∈ names.dropLast, name.toList.head? ≠ some '_'

end Node

variable {n child : Node} {skip : Bool} {names : List String} {name path : String}
  {entries : List (String × Node)}

theorem Node.Lists.cons (hname : IsName name) (hchild : Fields.get? entries name = some child)
    (hskip : ¬ (skip = true ∧ child.isDir = true ∧ name.toList.head? = some '_'))
    (h : child.Lists skip names) : (Node.dir entries).Lists skip (name :: names) where
  isName := List.forall_mem_cons.mpr ⟨hname, h.isName⟩
  file := by
    rw [Node.get, hchild]
    exact h.file
  visible hset := by
    obtain ⟨text, time, hfile⟩ := h.file
    cases names with
    | nil => exact fun _ hmem => absurd hmem List.not_mem_nil
    | cons next rest =>
      have hdir : child.isDir = true := by
        cases child with
        | file t m => cases hfile
        | dir entries => rfl
      rw [List.dropLast_cons_of_ne_nil (List.cons_ne_nil next rest)]
      exact List.forall_mem_cons.mpr ⟨fun he => hskip ⟨hset, hdir, he⟩, h.visible hset⟩

mutual

theorem mem_walk (skip : Bool) (file : String) : (n : Node) → n.Proper → (path : String) →
    file ∈ walk skip n path → ∃ names, n.Lists skip names ∧ file = names.foldl join path
  | .file text time, _, path, h =>
    ⟨[], ⟨fun _ hname => absurd hname List.not_mem_nil, ⟨text, time, rfl⟩,
      fun _ _ hname => absurd hname List.not_mem_nil⟩, List.mem_singleton.mp h⟩
  | .dir entries, hn, path, h => by
    obtain ⟨name, child, names, hmem, hname, hskip, hlists, rfl⟩ :=
      mem_walkAll skip file entries hn.2 path h
    exact ⟨name :: names, hlists.cons hname (Fields.get?_of_mem hn.1 hmem) hskip, rfl⟩

theorem mem_walkAll (skip : Bool) (file : String) : (entries : List (String × Node)) →
    Node.ProperAll entries → (path : String) → file ∈ walkAll skip entries path →
      ∃ name child names, (name, child) ∈ entries ∧ IsName name ∧
        ¬ (skip = true ∧ child.isDir = true ∧ name.toList.head? = some '_') ∧
        child.Lists skip names ∧ file = names.foldl join (join path name)
  | [], _, _, h => absurd h List.not_mem_nil
  | (name, child) :: rest, hentries, path, h => by
    rw [walkAll] at h
    rcases List.mem_append.mp h with h | h
    · split at h
      · cases h
      · rename_i hskip
        obtain ⟨names, hlists, hfile⟩ := mem_walk skip file child hentries.2.1 (join path name) h
        exact ⟨name, child, names, List.mem_cons_self, hentries.1, by simpa [and_assoc] using hskip,
          hlists, hfile⟩
    · obtain ⟨other, child, names, hmem, hother⟩ :=
        mem_walkAll skip file rest hentries.2.2 path h
      exact ⟨other, child, names, List.mem_cons_of_mem _ hmem, hother⟩

end

/-- A file below a directory is reached by the names that lead to it from there. -/
theorem moves_of_names (h : ∀ name ∈ names, IsName name) (dir : String) :
    isAbsolute (names.foldl join dir) = isAbsolute dir ∧
      moves (names.foldl join dir) = moves dir ++ names.map .name := by
  obtain ⟨hroot, hmoves⟩ := Url.moves_foldl_join (fun t ht => (h t ht).2.2.2) dir
  refine ⟨hroot, hmoves.trans (congrArg _ ?_)⟩
  rw [← List.filterMap_eq_map]
  exact List.filterMap_congr fun name hname => component?_of_isName (h name hname)

/-- Two paths that go on behind a directory by names, those of the first being ahead of those of the
second, name by name. -/
def Ahead (dir a b : String) : Prop :=
  ∃ names names', (∀ name ∈ names, IsName name) ∧ (∀ name ∈ names', IsName name) ∧
    List.Lex (· < ·) names names' ∧ a = names.foldl join dir ∧ b = names'.foldl join dir

theorem Ahead.of_join {dir a b : String} (hname : IsName name) (h : Ahead (join dir name) a b) :
    Ahead dir a b := by
  obtain ⟨names, names', hnames, hnames', hlex, rfl, rfl⟩ := h
  exact ⟨name :: names, name :: names', List.forall_mem_cons.mpr ⟨hname, hnames⟩,
    List.forall_mem_cons.mpr ⟨hname, hnames'⟩, .cons hlex, rfl, rfl⟩

theorem Ahead.moves_ne {dir a b : String} (h : Ahead dir a b) : moves a ≠ moves b := by
  obtain ⟨names, names', hnames, hnames', hlex, rfl, rfl⟩ := h
  rw [(moves_of_names hnames dir).2, (moves_of_names hnames' dir).2]
  intro he
  obtain rfl : names = names' :=
    List.map_injective_iff.mpr (fun _ _ => Component.name.inj) (List.append_cancel_left he)
  exact List.lex_irrefl String.lt_irrefl _ hlex

mutual

/-- A walk meets the files in the order of their names. -/
theorem pairwise_walk (skip : Bool) : (n : Node) → n.Proper → (path : String) →
    (walk skip n path).Pairwise (Ahead path)
  | .file _ _, _, _ => List.pairwise_singleton _ _
  | .dir entries, hn, path => pairwise_walkAll skip entries hn.1 hn.2 path

theorem pairwise_walkAll (skip : Bool) : (entries : List (String × Node)) →
    Fields.Sorted entries → Node.ProperAll entries → (path : String) →
      (walkAll skip entries path).Pairwise (Ahead path)
  | [], _, _, _ => .nil
  | (name, child) :: rest, hsorted, hentries, path => by
    obtain ⟨hfirst, hrest⟩ := List.pairwise_cons.mp hsorted
    rw [walkAll]
    refine List.pairwise_append.mpr
      ⟨?_, pairwise_walkAll skip rest hrest hentries.2.2 path, fun a ha b hb => ?_⟩
    · split
      · exact .nil
      · exact (pairwise_walk skip child hentries.2.1 _).imp (Ahead.of_join hentries.1)
    · split at ha
      · cases ha
      · obtain ⟨names, hlists, rfl⟩ := mem_walk skip a child hentries.2.1 _ ha
        obtain ⟨other, child', names', hmem, hother, -, hlists', rfl⟩ :=
          mem_walkAll skip b rest hentries.2.2 path hb
        exact ⟨name :: names, other :: names',
          List.forall_mem_cons.mpr ⟨hentries.1, hlists.isName⟩,
          List.forall_mem_cons.mpr ⟨hother, hlists'.isName⟩,
          .rel (hfirst other (List.mem_map_of_mem hmem)), rfl, rfl⟩

end

namespace Node

mutual

def bare : Node → Node
  | file _ _ => file "" 0
  | dir entries => dir (bareAll entries)

def bareAll : List (String × Node) → List (String × Node)
  | [] => []
  | (name, n) :: rest => (name, n.bare) :: bareAll rest

end

theorem isDir_bare (n : Node) : n.bare.isDir = n.isDir := by
  cases n <;> rfl

theorem isDir_map_bare (r : Except Fault Node) : (r.map bare).map isDir = r.map isDir := by
  cases r with
  | error e => rfl
  | ok n => exact congrArg Except.ok (isDir_bare n)

theorem get?_bareAll (entries : List (String × Node)) (name : String) :
    Fields.get? (bareAll entries) name = (Fields.get? entries name).map bare := by
  induction entries with
  | nil => rfl
  | cons e rest ih =>
    unfold Fields.get? at ih ⊢
    rw [bareAll, List.lookup_cons, List.lookup_cons, ih]
    cases name == e.1 <;> rfl

theorem get_bare (n : Node) (names : List String) : n.bare.get names = (n.get names).map bare := by
  induction names generalizing n with
  | nil => rfl
  | cons name rest ih =>
    cases n with
    | file text time => rfl
    | dir entries =>
      rw [bare, get, get, get?_bareAll]
      cases Fields.get? entries name with
      | none => rfl
      | some child => exact ih child

mutual

theorem walk_bare (skip : Bool) : (n : Node) → (path : String) →
    walk skip n.bare path = walk skip n path
  | file _ _, _ => rfl
  | dir entries, path => walkAll_bareAll skip entries path

theorem walkAll_bareAll (skip : Bool) : (entries : List (String × Node)) → (path : String) →
    walkAll skip (bareAll entries) path = walkAll skip entries path
  | [], _ => rfl
  | (name, n) :: rest, path => by
    rw [bareAll, walkAll, walkAll, isDir_bare, walk_bare skip n, walkAll_bareAll skip rest]

end

theorem keys_bareAll (entries : List (String × Node)) :
    Fields.keys (bareAll entries) = Fields.keys entries := by
  induction entries with
  | nil => rfl
  | cons e rest ih => exact congrArg (e.1 :: ·) ih

mutual

theorem proper_bare : (n : Node) → (n.bare.Proper ↔ n.Proper)
  | file _ _ => .rfl
  | dir entries => by
    rw [bare, Proper, Proper, Fields.Sorted, keys_bareAll, properAll_bareAll entries]
    rfl

theorem properAll_bareAll : (entries : List (String × Node)) →
    (ProperAll (bareAll entries) ↔ ProperAll entries)
  | [] => .rfl
  | (name, n) :: rest => by
    rw [bareAll, ProperAll, ProperAll, proper_bare n, properAll_bareAll rest]

end

theorem isName_of_mem {entries : List (String × Node)} (h : ProperAll entries) {name : String}
    {child : Node} (hmem : (name, child) ∈ entries) : IsName name :=
  (properAll_iff.mp h _ hmem).1

theorem proper_of_mem {entries : List (String × Node)} (h : ProperAll entries) {name : String}
    {child : Node} (hmem : (name, child) ∈ entries) : child.Proper :=
  (properAll_iff.mp h _ hmem).2

/-- A directory in which one entry is replaced by a node with the same names. -/
theorem bareAll_insert {entries : List (String × Node)} (hsorted : Fields.Sorted entries)
    {name : String} {child child' : Node} (hchild : Fields.get? entries name = some child)
    (h : child'.bare = child.bare) :
    bareAll (Fields.insert name child' entries) = bareAll entries := by
  induction entries with
  | nil => cases hchild
  | cons e rest ih =>
    obtain ⟨key, n⟩ := e
    obtain ⟨hfirst, hrest⟩ := List.pairwise_cons.mp hsorted
    rw [Fields.insert]
    have hmem := Fields.mem_of_get? hchild
    split
    · rename_i hlt
      rcases List.mem_cons.mp hmem with he | hmem
      · obtain ⟨rfl, -⟩ := Prod.mk.inj he
        exact absurd hlt (String.lt_irrefl name)
      · have hafter := hfirst name (List.mem_map.mpr ⟨_, hmem, rfl⟩)
        exact absurd (String.lt_trans hlt hafter) (String.lt_irrefl name)
    · split
      · rename_i he
        subst he
        have hn : n = child := by simpa [Fields.get?] using hchild
        rw [bareAll, bareAll, h, hn]
      · rename_i hne
        have hbehind : Fields.get? rest name = some child := by
          rw [Fields.get?, List.lookup_cons, beq_eq_false_iff_ne.mpr hne] at hchild
          exact hchild
        rw [bareAll, bareAll, ih hrest hbehind]

/-- A file that is written over another leaves the same names. -/
theorem bare_put {root : Node} {names : List String} {text text' : String} {time time' : Int}
    (hproper : root.Proper) (h : root.get names = .ok (.file text time)) :
    (root.put names (.file text' time')).bare = root.bare := by
  induction names generalizing root with
  | nil =>
    cases h
    rfl
  | cons name rest ih =>
    cases root with
    | file t m => cases h
    | dir entries =>
      rw [get] at h
      split at h
      · rename_i child hchild
        have hput := ih (proper_of_mem hproper.2 (Fields.mem_of_get? hchild)) h
        rw [put, hchild, bare, bare]
        exact congrArg dir (bareAll_insert hproper.1 hchild hput)
      · cases h

theorem proper_of_get {root n : Node} {names : List String} (hproper : root.Proper)
    (h : root.get names = .ok n) : n.Proper := by
  induction names generalizing root with
  | nil =>
    cases h
    exact hproper
  | cons name rest ih =>
    cases root with
    | file text time => cases h
    | dir entries =>
      rw [get] at h
      split at h
      · rename_i child hchild
        exact ih (proper_of_mem hproper.2 (Fields.mem_of_get? hchild)) h
      · cases h

end Node

variable {d d' : Disk} {dir extension : String}

theorem place_append {names : List String} (hroot : isAbsolute path = isAbsolute dir)
    (hmoves : moves path = moves dir ++ names.map .name) : d.place path = d.place dir ++ names := by
  have hnames (start : List String) :
      (names.map Component.name).foldl Component.move start = start ++ names := by
    clear hmoves
    induction names generalizing start with
    | nil => exact (List.append_nil start).symm
    | cons name rest ih =>
      rw [List.map_cons, List.foldl_cons, ih, Component.move, List.append_assoc]
      rfl
  rw [place, place, hroot, hmoves, List.foldl_append, hnames]

structure Listed (d : Disk) (dir : String) (skip : Bool) (names : List String) : Prop where
  isName : ∀ name ∈ names, IsName name
  file : ∃ text time, d.root.get (d.place dir ++ names) = .ok (.file text time)
  visible : skip = true → ∀ name ∈ names.dropLast, name.toList.head? ≠ some '_'

theorem listed_of_mem (hproper : d.root.Proper) (h : path ∈ d.listFiles dir extension skip) :
    Path.extension? path = some extension ∧
      ∃ names, path = names.foldl join dir ∧ d.Listed dir skip names := by
  unfold listFiles at h
  split at h
  · rename_i n hn
    obtain ⟨hwalk, hext⟩ := List.mem_filter.mp h
    obtain ⟨place, hplace, hget⟩ := exists_of_bind_eq_ok hn
    rw [place_of_locate hplace] at hget
    obtain ⟨names, hlists, hpath⟩ :=
      mem_walk skip path n (Node.proper_of_get hproper hget) dir hwalk
    refine ⟨beq_iff_eq.mp hext, names, hpath, hlists.isName, ?_, hlists.visible⟩
    rw [Node.get_append, hget]
    exact hlists.file
  · cases h

/-- Listed paths are in the order of their names. -/
theorem ahead_listFiles (hproper : d.root.Proper) (dir extension : String) (skip : Bool) :
    (d.listFiles dir extension skip).Pairwise (Ahead dir) := by
  unfold listFiles
  split
  · rename_i n hn
    obtain ⟨place, -, hget⟩ := exists_of_bind_eq_ok hn
    exact (pairwise_walk skip n (Node.proper_of_get hproper hget) dir).filter _
  · exact .nil

/-- Listed paths lead to different places. -/
theorem pairwise_listFiles (hproper : d.root.Proper) (dir extension : String) (skip : Bool) :
    (d.listFiles dir extension skip).Pairwise fun a b => moves a ≠ moves b :=
  (ahead_listFiles hproper dir extension skip).imp Ahead.moves_ne

/-- Listings of directories with the same names are the same. -/
theorem listFiles_congr (h : (d'.node dir).map Node.bare = (d.node dir).map Node.bare)
    (extension : String) (skip : Bool) :
    d'.listFiles dir extension skip = d.listFiles dir extension skip := by
  unfold listFiles
  generalize d.node dir = r at h ⊢
  generalize d'.node dir = r' at h ⊢
  rcases r with e | n <;> rcases r' with e' | n'
  · rfl
  · cases h
  · cases h
  · have hbare : n'.bare = n.bare := Except.ok.inj h
    dsimp only
    rw [← Node.walk_bare skip n', hbare, Node.walk_bare]

theorem Listed.place_eq (h : d.Listed dir skip names) :
    d.place (names.foldl join dir) = d.place dir ++ names := by
  obtain ⟨hroot, hmoves⟩ := moves_of_names h.isName dir
  exact place_append hroot hmoves

end Disk
end LayeredSite
