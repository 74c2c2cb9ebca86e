import Trials.Path
import Mathlib.Data.List.Infix
import Mathlib.Order.Defs.Unbundled

/-!
# Texts of paths

A path whose identifiers are neither empty nor contain slashes (`Path.Plain`) is read back from its
text (`Path.parse_text`), so different paths of this kind have different texts.  Every text is read
as such a path (`Path.plain_parse`), and where a slash stands in a text, the path is put together
from those on the two sides (`Path.segments_parse_append`).  From this it follows when one path is
within another by their texts (`Path.parsing_normalises`).
-/

namespace Trials.Path

variable {p q : Path} {id : String}

/-- A text that can be one identifier of a path. -/
def PlainId (id : String) : Prop := id ≠ "" ∧ '/' ∉ id.toList

/-- All identifiers can be told apart in the path's text. -/
def Plain (p : Path) : Prop := ∀ id ∈ p.segments, PlainId id

theorem plain_root : root.Plain := nofun

theorem Plain.child (h : p.Plain) (hid : PlainId id) : (p.child id).Plain := by
  intro other hother
  rw [segments_child, List.mem_append, List.mem_singleton] at hother
  obtain hmem | rfl := hother
  · exact h other hmem
  · exact hid

theorem child_inj {id id' : String} : p.child id = q.child id' ↔ p = q ∧ id = id' := by
  cases p
  cases q
  simp [Path.child]

theorem child_ne_root (p : Path) (id : String) : p.child id ≠ root := by
  simp [Path.child, root]

/-- A path beneath another one is within itself and within whatever that one is within. -/
theorem isWithin_child_iff :
    (p.child id).isWithin q = true ↔ q = p.child id ∨ p.isWithin q = true := by
  rw [isWithin_iff, isWithin_iff, segments_child, List.prefix_concat_iff]
  have hsegments : q.segments = p.segments ++ [id] ↔ q = p.child id := by
    cases q
    simp [Path.child]
  rw [hsegments]

/-! ## Reading texts -/

theorem splitSlashes_of_notMem {cs : List Char} (h : '/' ∉ cs) : splitSlashes cs = [cs] := by
  induction cs with
  | nil => rfl
  | cons c cs ih =>
    obtain ⟨hc, hcs⟩ := not_or.1 (mt List.mem_cons.2 h)
    rw [splitSlashes, if_neg (Ne.symm hc), ih hcs]

theorem splitSlashes_ne_nil (cs : List Char) : splitSlashes cs ≠ [] := by
  cases cs with
  | nil => exact List.cons_ne_nil _ _
  | cons c cs =>
    unfold splitSlashes
    split_ifs
    · exact List.cons_ne_nil _ _
    · split <;> exact List.cons_ne_nil _ _

theorem splitSlashes_cons {c : Char} (hc : c ≠ '/') (cs : List Char) :
    ∃ part parts, splitSlashes cs = part :: parts ∧
      splitSlashes (c :: cs) = (c :: part) :: parts := by
  obtain ⟨part, parts, hsplit⟩ := List.exists_cons_of_ne_nil (splitSlashes_ne_nil cs)
  exact ⟨part, parts, hsplit, by rw [splitSlashes, if_neg hc, hsplit]⟩

/-- A slash separates what stands before it from what follows. -/
theorem splitSlashes_append (cs rest : List Char) :
    splitSlashes (cs ++ '/' :: rest) = splitSlashes cs ++ splitSlashes rest := by
  induction cs with
  | nil => rfl
  | cons c cs ih =>
    by_cases hc : c = '/'
    · subst hc
      rw [List.cons_append, splitSlashes, if_pos rfl, ih, splitSlashes, if_pos rfl]
      rfl
    · obtain ⟨part, parts, hcs, hcons⟩ := splitSlashes_cons hc cs
      rw [hcons, List.cons_append, splitSlashes, if_neg hc, ih, hcs]
      rfl

theorem slash_notMem_of_mem_splitSlashes {cs part : List Char} (h : part ∈ splitSlashes cs) :
    '/' ∉ part := by
  induction cs generalizing part with
  | nil =>
    obtain rfl := List.mem_singleton.1 h
    exact List.not_mem_nil
  | cons c cs ih =>
    by_cases hc : c = '/'
    · rw [splitSlashes, if_pos hc] at h
      obtain rfl | h := List.mem_cons.1 h
      · exact List.not_mem_nil
      · exact ih h
    · obtain ⟨first, parts, hcs, hcons⟩ := splitSlashes_cons hc cs
      rw [hcons] at h
      rw [hcs] at ih
      obtain rfl | h := List.mem_cons.1 h
      · rw [List.mem_cons, not_or]
        exact ⟨Ne.symm hc, ih List.mem_cons_self⟩
      · exact ih (List.mem_cons_of_mem _ h)

theorem splitSlashes_joinSlashes {ids : List String} (hne : ids ≠ [])
    (h : ∀ id ∈ ids, PlainId id) :
    splitSlashes (joinSlashes ids).toList = ids.map String.toList := by
  induction ids with
  | nil => exact absurd rfl hne
  | cons id rest ih =>
    obtain ⟨hid, hrest⟩ := List.forall_mem_cons.1 h
    cases rest with
    | nil => exact splitSlashes_of_notMem hid.2
    | cons next rest =>
      have htext : (joinSlashes (id :: next :: rest)).toList =
          id.toList ++ '/' :: (joinSlashes (next :: rest)).toList := by
        simp [joinSlashes]
      rw [htext, splitSlashes_append, splitSlashes_of_notMem hid.2, ih (by simp) hrest]
      rfl

/-- A path is read back from its text. -/
theorem parse_text (h : p.Plain) : parse p.text = p := by
  obtain ⟨ids⟩ := p
  by_cases hne : ids = []
  · subst hne
    rfl
  · have hsplit := splitSlashes_joinSlashes hne h
    have hfilter : (ids.map String.toList).filter (fun part => !part.isEmpty) =
        ids.map String.toList := by
      rw [List.filter_eq_self]
      intro part hpart
      obtain ⟨id, hid, rfl⟩ := List.mem_map.1 hpart
      have hne : id ≠ "" := (h id hid).1
      simpa using hne
    rw [parse, text, hsplit, hfilter, List.map_map]
    simp

theorem text_inj (hp : p.Plain) (hq : q.Plain) : p.text = q.text ↔ p = q := by
  refine ⟨fun h => ?_, congrArg text⟩
  rw [← parse_text hp, h, parse_text hq]

/-! ## What is read -/

/-- Whatever text a path is read from, its identifiers can be told apart. -/
theorem plain_parse (s : String) : (parse s).Plain := by
  intro id hid
  obtain ⟨part, hpart, rfl⟩ := List.mem_map.1 hid
  obtain ⟨hmem, hne⟩ := List.mem_filter.1 hpart
  refine ⟨fun hempty => ?_, ?_⟩
  · have hnil : part = [] := by simpa using congrArg String.toList hempty
    rw [hnil] at hne
    cases hne
  · rw [String.toList_ofList]
    exact slash_notMem_of_mem_splitSlashes hmem

/-- The texts on the two sides of a slash are read one after the other. -/
theorem segments_parse_append (s t : String) :
    (parse (s ++ "/" ++ t)).segments = (parse s).segments ++ (parse t).segments := by
  have htext : (s ++ "/" ++ t).toList = s.toList ++ '/' :: t.toList := by simp
  simp only [parse, htext, splitSlashes_append, List.filter_append, List.map_append]

theorem joinSlashes_append {ids more : List String} (hids : ids ≠ []) (hmore : more ≠ []) :
    joinSlashes (ids ++ more) = joinSlashes ids ++ "/" ++ joinSlashes more := by
  induction ids with
  | nil => exact absurd rfl hids
  | cons id rest ih =>
    cases rest with
    | nil =>
      obtain ⟨next, others, rfl⟩ := List.exists_cons_of_ne_nil hmore
      rfl
    | cons next rest =>
      calc joinSlashes (id :: next :: rest ++ more)
        _ = id ++ "/" ++ joinSlashes (next :: rest ++ more) := rfl
        _ = id ++ "/" ++ joinSlashes (next :: rest) ++ "/" ++ joinSlashes more := by
          rw [ih (List.cons_ne_nil _ _)]
          simp only [String.append_assoc]

/-! ## Paths within others -/

/-- To be within another path is to have its text, or to go on from its text with a slash. -/
theorem isWithin_iff_text (hp : p.Plain) (hq : q.Plain) :
    q.isWithin p = true ↔
      q.text = p.text ∨ (∃ rest, q.text = p.text ++ "/" ++ rest) ∨ p = root := by
  constructor
  · rintro hwithin
    obtain ⟨more, hmore⟩ := isWithin_iff.1 hwithin
    by_cases hroot : p.segments = []
    · exact .inr (.inr (congrArg Path.mk hroot))
    by_cases hnil : more = []
    · rw [hnil, List.append_nil] at hmore
      exact .inl (congrArg joinSlashes hmore.symm)
    · refine .inr (.inl ⟨joinSlashes more, ?_⟩)
      rw [text, ← hmore, joinSlashes_append hroot hnil]
      rfl
  · rintro (htext | ⟨rest, htext⟩ | rfl)
    · rw [(text_inj hq hp).1 htext]
      exact isWithin_self p
    · rw [isWithin_iff, ← parse_text hq, htext, segments_parse_append, parse_text hp]
      exact List.prefix_append _ _
    · exact isWithin_iff.2 List.nil_prefix

theorem isPartialOrder_isWithin : IsPartialOrder Path fun q p => q.isWithin p = true where
  refl := isWithin_self
  trans p q r hpq hqr := isWithin_iff.2 ((isWithin_iff.1 hqr).trans (isWithin_iff.1 hpq))
  antisymm p q hpq hqp := by
    cases p
    cases q
    exact congrArg Path.mk ((isWithin_iff.1 hqp).eq_of_length_le (isWithin_iff.1 hpq).length_le)

/-- Reading a text once brings it into a normal form, of which the path is read again; all paths
with plain identifiers have such a form, and it shows which paths are within which. -/
theorem parsing_normalises :
    (∀ s : String, (∀ id ∈ (parse s).segments, id ≠ "" ∧ '/' ∉ id.toList) ∧
      parse (parse s).text = parse s) ∧
    (∀ ids : List String, (∀ id ∈ ids, id ≠ "" ∧ '/' ∉ id.toList) →
      parse (text ⟨ids⟩) = ⟨ids⟩) ∧
    IsPartialOrder Path (fun q p => q.isWithin p = true) ∧
    ∀ p q : Path, p.Plain → q.Plain → (q.isWithin p = true ↔
      q.text = p.text ∨ (∃ rest, q.text = p.text ++ "/" ++ rest) ∨ p = root) :=
  ⟨fun s => ⟨plain_parse s, parse_text (plain_parse s)⟩, fun _ hids => parse_text hids,
    isPartialOrder_isWithin, fun _ _ hp hq => isWithin_iff_text hp hq⟩

/-- A page of a block is within it, a sibling whose name begins alike is not. -/
theorem siblings_not_within :
    parse (text ⟨["a", "bc"]⟩) = ⟨["a", "bc"]⟩ ∧
      (parse "a/b/p1").isWithin (parse "/a//b/") = true ∧
      (parse "a/bc").isWithin (parse "/a//b/") = false := by
  obtain ⟨-, hback, -, hwithin⟩ := parsing_normalises
  have hpage := hwithin (parse "/a//b/") (parse "a/b/p1") (plain_parse _) (plain_parse _)
  exact ⟨hback ["a", "bc"] (by decide), hpage.2 (.inr (.inl ⟨"p1", by decide⟩)), by decide⟩

end Trials.Path
