import Narrative.Proofs.Player.Bound
import Narrative.Proofs.Repository.Listing

/-!
# Scripts that are served but not listed

A directory of scripts makes a path of whatever id it is asked for.  If the id holds a slash, the
path leads to another directory; if it is empty, the file has a name without an extension.  Such
ids are served and never listed (`serves_unlisted`).  All others are listed if they are served,
and stand for an entry of the directory (`listed_iff_plain_of_serves`).
-/

namespace Narrative.Repository

variable {v : Volume} {base id : String} {es : Keyed FileTree}

/-- A repository serves an id: it says that it has the script, or it loads it. -/
def Serves (r : Repository) (id : String) : Prop :=
  r.has id = .ok true ∨ ∃ s, (r.load id).value = .ok s

theorem exists_find_of_serves (h : Serves (ofDirectory v.disk base) id) :
    ∃ node, v.find (scriptPath base id) = .ok node := by
  rcases h with h | ⟨s, h⟩
  · obtain ⟨kind, hkind⟩ := exists_kind_of_has h
    exact Volume.exists_find_of_kind hkind
  · obtain ⟨source, htext, -⟩ := value_load_eq_ok_iff.1 h
    obtain ⟨bytes, hfind, -⟩ := Volume.text_eq_ok_iff.1 htext
    exact ⟨_, hfind⟩

theorem IsPlain.exists_entry (h : IsPlain id) (hbase : v.find base = .ok (.directory es))
    (hserves : Serves (ofDirectory v.disk base) id) :
    ∃ node, es.get? (fileName id) = some node ∧ v.find (scriptPath base id) = .ok node := by
  obtain ⟨node, hfind⟩ := exists_find_of_serves hserves
  exact ⟨node, Volume.get?_of_find_join hbase (isName_fileName h.no_slash) hfind, hfind⟩

theorem IsPlain.mem_listed (h : IsPlain id) {node : FileTree}
    (hentry : es.get? (fileName id) = some node) : id ∈ sorted (es.keys.filterMap idOf?) := by
  rw [mem_sorted, List.mem_filterMap]
  exact ⟨fileName id, Keyed.mem_keys_of_get? hentry, h.idOf?_fileName⟩

theorem plain_of_mem_listed {names : List String} (h : id ∈ sorted (names.filterMap idOf?)) :
    IsPlain id := by
  rw [mem_sorted, List.mem_filterMap] at h
  obtain ⟨name, -, hid⟩ := h
  exact plain_of_idOf? hid

/-- An id that a directory of scripts serves is listed just if it is not empty and holds no slash.
Then the file is the entry of that name in the directory. -/
theorem listed_iff_plain_of_serves (v : Volume) (base : String) {es : Keyed FileTree}
    (hbase : v.find base = .ok (.directory es)) :
    let r := ofDirectory v.disk base
    ∃ ids, r.ids = .ok ids ∧ ∀ id, Serves r id →
      (id ∈ ids ↔ id ≠ "" ∧ '/' ∉ id.toList) ∧
      (id ∈ ids → ∃ node, es.get? (fileName id) = some node ∧
        v.find (scriptPath base id) = .ok node) := by
  refine ⟨_, ids_of_names (Volume.names_disk hbase), fun id hserves => ⟨⟨fun h => ?_, ?_⟩, ?_⟩⟩
  · exact ⟨(plain_of_mem_listed h).ne_empty, (plain_of_mem_listed h).no_slash⟩
  · rintro ⟨hne, hslash⟩
    obtain ⟨node, hentry, -⟩ := IsPlain.exists_entry ⟨hne, hslash⟩ hbase hserves
    exact IsPlain.mem_listed ⟨hne, hslash⟩ hentry
  · intro h
    exact (plain_of_mem_listed h).exists_entry hbase hserves

/-- The entries of a directory of scripts, with a file that has no more than the extension. -/
def scripts : Keyed FileTree :=
  [("intro.json", .file "\x7b\x7d".toUTF8), (".json", .file "\x7b\x7d".toUTF8)]

/-- The directory with a file beside it, seen from where both are. -/
def besides : Volume where
  root := .directory
    [("home", .directory
      [("scripts", .directory scripts), ("secret.json", .file "\x7b\x7d".toUTF8)])]
  directory := ["home"]

theorem listed_iff_plain_besides :
    let r := ofDirectory besides.disk "scripts"
    Serves r "intro" ∧ Serves r "../secret" ∧
      ∃ ids, r.ids = .ok ids ∧ "intro" ∈ ids ∧ "../secret" ∉ ids ∧
        ∃ node, scripts.get? "intro.json" = some node ∧
          besides.find "scripts/intro.json" = .ok node := by
  intro r
  have hintro : Serves r "intro" := Or.inl (Player.eq_ok_of_toOption (by decide +kernel))
  have hsecret : Serves r "../secret" := Or.inl (Player.eq_ok_of_toOption (by decide +kernel))
  have hbase : besides.find "scripts" = .ok (.directory scripts) := rfl
  obtain ⟨ids, hids, hserved⟩ := listed_iff_plain_of_serves besides "scripts" hbase
  have hlisted : "intro" ∈ ids := (hserved _ hintro).1.2 (by decide)
  refine ⟨hintro, hsecret, ids, hids, hlisted, fun h => ?_, (hserved _ hintro).2 hlisted⟩
  exact absurd ((hserved _ hsecret).1.1 h) (by decide)

/-- A repository serves a script beside its directory, and one whose id is empty. -/
theorem serves_unlisted :
    let r := ofDirectory besides.disk "scripts"
    besides.find "scripts" = .ok (.directory scripts) ∧ r.ids = .ok ["intro"] ∧
      r.has "../secret" = .ok true ∧ (r.load "../secret").value = .ok (.ofEntries []) ∧
      r.has "" = .ok true ∧ (r.load "").value = .ok (.ofEntries []) := by
  refine ⟨rfl, ?_, ?_, ?_, ?_, ?_⟩ <;> exact Player.eq_ok_of_toOption (by decide +kernel)

end Narrative.Repository
