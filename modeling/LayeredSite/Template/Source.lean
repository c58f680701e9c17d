import LayeredSite.Template.Error

namespace LayeredSite

structure Source where
  read : String → Except TemplateError String
  texts : List String
  mem_texts : ∀ name text, read name = .ok text → text ∈ texts

namespace Source

def readList (entries : List (String × String)) (name : String) : Except TemplateError String :=
  match entries.lookup name with
  | some text => .ok text
  | none => .error (.missingTemplate name)

theorem mem_of_lookup {entries : List (String × String)} {name text : String}
    (h : entries.lookup name = some text) : text ∈ entries.map Prod.snd := by
  induction entries with
  | nil => simp at h
  | cons e rest ih =>
    obtain ⟨k, v⟩ := e
    rw [List.lookup_cons] at h
    split at h
    · simp_all
    · exact List.mem_cons_of_mem _ (ih h)

def ofList (entries : List (String × String)) : Source where
  read := readList entries
  texts := entries.map Prod.snd
  mem_texts name text h := by
    unfold readList at h
    split at h
    · rename_i t ht
      exact Except.ok.inj h ▸ mem_of_lookup ht
    · simp at h

def readLayout (source : Source) (name : String) : Except TemplateError String :=
  match source.read name with
  | .error (.missingTemplate _) => .error (.missingLayout name)
  | r => r

end Source
end LayeredSite
