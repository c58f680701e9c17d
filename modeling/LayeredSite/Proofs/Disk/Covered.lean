import LayeredSite.Proofs.Disk.Listing
import LayeredSite.Proofs.Path.Relative

namespace LayeredSite

open LayeredSite.Path

/-- A relative path that never goes up. -/
structure Path.Descends (path : String) : Prop where
  relative : isAbsolute path = false
  below : Component.parent ∉ moves path

instance (path : String) : Decidable (Path.Descends path) :=
  decidable_of_iff (isAbsolute path = false ∧ Component.parent ∉ moves path)
    ⟨fun h => ⟨h.1, h.2⟩, fun h => ⟨h.1, h.2⟩⟩

theorem Path.Descends.exists_names {path : String} (h : Descends path) :
    ∃ names : List String, (∀ name ∈ names, IsName name) ∧ moves path = names.map .name :=
  Path.exists_names fun _ hc => (of_mem_moves hc).resolve_left fun he => h.below (he ▸ hc)

namespace Disk

variable {d : Disk} {n child : Node} {skip : Bool} {names : List String}
  {name path other base dir extension : String} {entries : List (String × Node)}

theorem mem_walkAll_of_mem {file : String} (hmem : (name, child) ∈ entries)
    (hskip : ¬ (skip = true ∧ child.isDir = true ∧ name.toList.head? = some '_'))
    (hfile : file ∈ walk skip child (join path name)) : file ∈ walkAll skip entries path := by
  induction entries with
  | nil => exact absurd hmem List.not_mem_nil
  | cons e rest ih =>
    rw [walkAll]
    rcases List.mem_cons.mp hmem with rfl | hmem
    · refine List.mem_append_left _ ?_
      rw [if_neg (by simpa [and_assoc] using hskip)]
      exact hfile
    · exact List.mem_append_right _ (ih hmem)

theorem Node.Lists.mem_walk (h : n.Lists skip names) (path : String) :
    names.foldl join path ∈ walk skip n path := by
  induction names generalizing n path with
  | nil =>
    obtain ⟨text, time, hfile⟩ := h.file
    obtain rfl := Except.ok.inj hfile
    exact List.mem_singleton_self path
  | cons name rest ih =>
    obtain ⟨text, time, hfile⟩ := h.file
    cases n with
    | file t m => cases hfile
    | dir entries =>
      rw [get] at hfile
      split at hfile
      · rename_i child hchild
        have hbehind : child.Lists skip rest := by
          refine ⟨fun n hn => h.isName n (List.mem_cons_of_mem _ hn), ⟨text, time, hfile⟩,
            fun hset n hn => h.visible hset n ?_⟩
          rw [List.dropLast_cons_of_ne_nil (List.ne_nil_of_mem (List.dropLast_subset _ hn))]
          exact List.mem_cons_of_mem _ hn
        refine mem_walkAll_of_mem (Fields.mem_of_get? hchild) ?_ (ih hbehind _)
        rintro ⟨hset, hdir, hunderscore⟩
        -- A directory is not the file itself, so the name is one on the way.
        have hne : rest ≠ [] := by
          rintro rfl
          obtain rfl := Except.ok.inj hfile
          cases hdir
        refine h.visible hset name ?_ hunderscore
        rw [List.dropLast_cons_of_ne_nil hne]
        exact List.mem_cons_self
      · cases hfile

theorem exists_entries (h : d.isDir dir = true) : ∃ entries,
    d.node dir = .ok (.dir entries) ∧ d.root.get (d.place dir) = .ok (.dir entries) := by
  unfold isDir at h
  split at h
  · rename_i n hn
    obtain ⟨place, hplace, hget⟩ := exists_of_bind_eq_ok hn
    rw [place_of_locate hplace] at hget
    cases n with
    | file text time => cases h
    | dir entries => exact ⟨entries, hn, hget⟩
  · cases h

theorem ne_empty_of_isDir (h : d.isDir dir = true) : dir ≠ "" := by
  rintro rfl
  cases h

/-- A file is not its directory. -/
theorem Listed.ne_nil (h : d.Listed dir skip names) (hdir : d.isDir dir = true) : names ≠ [] := by
  rintro rfl
  obtain ⟨text, time, hfile⟩ := h.file
  obtain ⟨entries, -, hget⟩ := exists_entries hdir
  rw [List.append_nil, hget] at hfile
  cases hfile

theorem Listed.mem_listFiles (h : d.Listed dir skip names) (hdir : d.isDir dir = true)
    (hext : Path.extension? (names.foldl join dir) = some extension) :
    names.foldl join dir ∈ d.listFiles dir extension skip := by
  obtain ⟨entries, hnode, hget⟩ := exists_entries hdir
  have hlists : (Node.dir entries).Lists skip names := by
    obtain ⟨text, time, hfile⟩ := h.file
    rw [Node.get_append, hget] at hfile
    exact ⟨h.isName, ⟨text, time, hfile⟩, h.visible⟩
  unfold listFiles
  rw [hnode]
  exact List.mem_filter.mpr ⟨hlists.mem_walk dir, beq_iff_eq.mpr hext⟩

theorem extension?_of_moves (h : moves path = moves other) :
    Path.extension? path = Path.extension? other := by
  have hname : fileName? path = fileName? other :=
    Option.ext fun name => by rw [fileName?_eq_some_iff, fileName?_eq_some_iff, h]
  rw [Path.extension?, Path.extension?, hname]

/-- A path joined to a directory starts with it. -/
theorem startsWith_join (hbase : base ≠ "") (hdir : isAbsolute dir = false) {more : String}
    (hmore : isAbsolute more = false) (h : moves dir <+: moves more) :
    Path.startsWith (join base more) (join base dir) = true := by
  rw [Path.startsWith, List.isPrefixOf_iff_prefix, components_join hbase hdir,
    components_join hbase hmore]
  exact (List.prefix_append_right_inj _).mpr h

theorem moves_prefix_of_startsWith (h : Path.startsWith path dir = true) :
    moves dir <+: moves path := by
  rw [← filter_components_eq_moves, ← filter_components_eq_moves]
  exact (List.isPrefixOf_iff_prefix.mp h).filter _

/-- Every file below a directory is behind a directory with an underscore, on the way from the
base. -/
def Covered (d : Disk) (base dir extension : String) : Prop :=
  ∀ names, d.Listed (join base dir) false names →
    Path.extension? (names.foldl join (join base dir)) = some extension →
      ∃ name ∈ ((moves dir).map Component.text ++ names).dropLast, name.toList.head? = some '_'

/-- All files below a directory with an underscore are covered. -/
theorem covered_of_underscore (hfile : d.shapeAt (d.place (join base dir)) ≠ .ok false)
    (hunderscore : ∃ c ∈ moves dir, c.text.toList.head? = some '_') :
    d.Covered base dir extension := by
  intro names hlisted _
  obtain ⟨c, hc, hhead⟩ := hunderscore
  have hne : names ≠ [] := by
    rintro rfl
    obtain ⟨text, time, hget⟩ := hlisted.file
    rw [List.append_nil] at hget
    refine hfile ?_
    rw [shapeAt, hget]
    rfl
  refine ⟨c.text, ?_, hhead⟩
  rw [List.dropLast_append_of_ne_nil hne]
  exact List.mem_append_left _ (List.mem_map_of_mem hc)

theorem texts_map_name (names : List String) :
    (names.map Component.name).map Component.text = names := by
  rw [List.map_map]
  exact List.map_id names

section Descends

variable {dirs : List String} (hdescends : Path.Descends dir) (hdirs : moves dir = dirs.map .name)

include hdescends hdirs

theorem isName_of_moves : ∀ name ∈ dirs, IsName name := by
  obtain ⟨dirs', hname, hdirs'⟩ := hdescends.exists_names
  obtain rfl : dirs' = dirs :=
    List.map_injective_iff.mpr (fun _ _ => Component.name.inj) (hdirs'.symm.trans hdirs)
  exact hname

theorem place_join_eq : d.place (join base dir) = d.place base ++ dirs :=
  place_append (isAbsolute_join hdescends.relative base)
    (hdirs ▸ moves_join hdescends.relative base)

theorem moves_join_names (base : String) (hname : ∀ name ∈ dirs ++ names, IsName name) :
    moves (names.foldl join (join base dir)) = moves ((dirs ++ names).foldl join base) := by
  have hnames := (List.forall_mem_append.mp hname).2
  rw [(moves_of_names hnames _).2, (moves_of_names hname _).2, moves_join hdescends.relative,
    hdirs, List.map_append, List.append_assoc]

/-- The files below a directory are files below its base. -/
theorem listed_join_iff : d.Listed (join base dir) false names ↔
    d.Listed base false (dirs ++ names) := by
  have hplace : d.place (join base dir) = d.place base ++ dirs := place_join_eq hdescends hdirs
  constructor
  · rintro ⟨hnames, hfile, -⟩
    refine ⟨List.forall_mem_append.mpr ⟨isName_of_moves hdescends hdirs, hnames⟩, ?_, nofun⟩
    rwa [hplace, List.append_assoc] at hfile
  · rintro ⟨hnames, hfile, -⟩
    refine ⟨(List.forall_mem_append.mp hnames).2, ?_, nofun⟩
    rwa [hplace, List.append_assoc]

/-- The names of a file that is listed from the base do not lead through a covered directory. -/
theorem Covered.not_prefix (hcovered : d.Covered base dir extension)
    (hlisted : d.Listed base true names)
    (hext : Path.extension? (names.foldl join base) = some extension) : ¬ dirs <+: names := by
  rintro ⟨below, rfl⟩
  have hbelow : d.Listed (join base dir) false below :=
    (listed_join_iff hdescends hdirs).mpr ⟨hlisted.isName, hlisted.file, nofun⟩
  have hmoves := moves_join_names hdescends hdirs base hlisted.isName
  obtain ⟨name, hmem, hunderscore⟩ :=
    hcovered below hbelow ((extension?_of_moves hmoves).trans hext)
  rw [hdirs, texts_map_name] at hmem
  exact hlisted.visible rfl name hmem hunderscore

end Descends

section Covered

variable (hdescends : Path.Descends dir) (hcovered : d.Covered base dir extension)
  (hproper : d.root.Proper) (hpath : path ∈ d.listFiles base extension true)

include hdescends hcovered hproper hpath

/-- A listing without underscores passes over a covered directory. -/
theorem Covered.not_startsWith : Path.startsWith path (join base dir) = false := by
  obtain ⟨hext, names, rfl, hlisted⟩ := listed_of_mem hproper hpath
  obtain ⟨dirs, -, hdirs⟩ := hdescends.exists_names
  rw [Bool.eq_false_iff]
  intro hstarts
  have hmoves := moves_prefix_of_startsWith hstarts
  rw [moves_join hdescends.relative, (moves_of_names hlisted.isName _).2,
    List.prefix_append_right_inj, hdirs] at hmoves
  have htexts := hmoves.map Component.text
  rw [texts_map_name, texts_map_name] at htexts
  exact hcovered.not_prefix hdescends hdirs hlisted hext htexts

/-- No file of a covered directory is in a listing without underscores. -/
theorem Covered.place_ne (hother : other ∈ d.listFiles (join base dir) extension skip) :
    d.place other ≠ d.place path := by
  obtain ⟨hext, names, rfl, hlisted⟩ := listed_of_mem hproper hpath
  obtain ⟨-, below, rfl, hbelow⟩ := listed_of_mem hproper hother
  obtain ⟨dirs, -, hdirs⟩ := hdescends.exists_names
  rw [hlisted.place_eq, hbelow.place_eq, place_join_eq hdescends hdirs, List.append_assoc]
  intro hsame
  exact hcovered.not_prefix hdescends hdirs hlisted hext ⟨below, List.append_cancel_left hsame⟩

end Covered

/-- The path of a file in a directory is the directory joined to a relative path. -/
theorem Listed.exists_join (h : d.Listed dir skip names) (hdir : d.isDir dir = true) :
    ∃ more, names.foldl join dir = join dir more ∧ isAbsolute more = false ∧
      moves more = names.map .name := by
  have hmore := isAbsolute_names (h.ne_nil hdir) h.isName
  have hjoin := foldl_join_eq (h.ne_nil hdir) h.isName dir
  have hmoves := moves_join hmore dir
  rw [← hjoin, (moves_of_names h.isName dir).2] at hmoves
  exact ⟨_, hjoin, hmore, (List.append_cancel_left hmoves).symm⟩

/-- A listing without underscores passes over a directory exactly if it is covered. -/
theorem covered_iff (hdescends : Path.Descends dir) (hproper : d.root.Proper)
    (hbase : d.isDir base = true) : d.Covered base dir extension ↔
      ∀ path ∈ d.listFiles base extension true, Path.startsWith path (join base dir) = false := by
  refine ⟨fun hcovered path => hcovered.not_startsWith hdescends hproper, fun h => ?_⟩
  -- A file with no underscore on its way would be listed from the base, below the directory.
  intro names hlisted hext
  by_contra hnone
  push Not at hnone
  obtain ⟨dirs, -, hdirs⟩ := hdescends.exists_names
  rw [hdirs, texts_map_name] at hnone
  have hfrom := (listed_join_iff hdescends hdirs).mp hlisted
  have hvisible : d.Listed base true (dirs ++ names) :=
    ⟨hfrom.isName, hfrom.file, fun _ => hnone⟩
  have hmoves := moves_join_names hdescends hdirs base hfrom.isName
  have hmem := hvisible.mem_listFiles hbase ((extension?_of_moves hmoves).symm.trans hext)
  obtain ⟨more, hmore, hrelative, hbehind⟩ := hvisible.exists_join hbase
  have hstarts : Path.startsWith (join base more) (join base dir) = true := by
    refine startsWith_join (ne_empty_of_isDir hbase) hdescends.relative hrelative ?_
    rw [hbehind, hdirs, List.map_append]
    exact List.prefix_append _ _
  exact Bool.false_ne_true ((h _ hmem).symm.trans (hmore ▸ hstarts))

end Disk
end LayeredSite
