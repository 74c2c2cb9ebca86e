import Trials.Json.Shape
import Trials.Proofs.Json.Doubles

/-!
# Written values

A value is written as a text, of which a reader makes a document again.  Here that document is
given by recursion on the value (`Json.document`), and shown to be what is read
(`read?_pretty`), for all values without negative integers (`Writable`).
-/

namespace Trials.Json

/-! ## The tokens of a document -/

namespace Document

mutual
/-- The tokens of a document. -/
def tokens : Document → List Token
  | .null => [.null]
  | .bool b => [.bool b]
  | .num n => [.num n]
  | .str s => [.str s]
  | .arr [] => [.openArray, .closeArray]
  | .arr (d :: rest) => .openArray :: d.tokens ++ itemTokens rest
  | .obj [] => [.openObject, .closeObject]
  | .obj ((s, d) :: rest) => .openObject :: .str s :: .colon :: d.tokens ++ fieldTokens rest

/-- The tokens of the items after the first, and of the closing bracket. -/
def itemTokens : List Document → List Token
  | [] => [.closeArray]
  | d :: rest => .comma :: d.tokens ++ itemTokens rest

/-- The tokens of the fields after the first, and of the closing brace. -/
def fieldTokens : List (List Char × Document) → List Token
  | [] => [.closeObject]
  | (s, d) :: rest => .comma :: .str s :: .colon :: d.tokens ++ fieldTokens rest
end

/-- A document at the beginning of an array is read as any other value. -/
theorem foldlM_firstItem (d : Document) (around : List Frame) (ts : List Token) :
    (d.tokens ++ ts).foldlM step (.firstItem around) =
      (d.tokens ++ ts).foldlM step (.value (.arr [] :: around)) := by
  match d with
  | .null | .bool _ | .num _ | .str _ | .arr [] | .arr (_ :: _) | .obj [] | .obj ((_, _) :: _) =>
    rfl

mutual
/-- A reader that expects a value reads a document from its tokens. -/
theorem foldlM_tokens (d : Document) (around : List Frame) (ts : List Token) :
    (d.tokens ++ ts).foldlM step (.value around) = ts.foldlM step (.finished d around) := by
  match d with
  | .null | .bool _ | .num _ | .str _ | .arr [] | .obj [] => rfl
  | .arr (d :: rest) =>
    calc (tokens (.arr (d :: rest)) ++ ts).foldlM step (.value around)
      _ = (d.tokens ++ (itemTokens rest ++ ts)).foldlM step (.firstItem around) := by
        rw [tokens, List.append_assoc]
        rfl
      _ = (itemTokens rest ++ ts).foldlM step (.finished d (.arr [] :: around)) := by
        rw [foldlM_firstItem, foldlM_tokens d]
      _ = ts.foldlM step (.finished (.arr (d :: rest)) around) := foldlM_itemTokens rest d [] _ _
  | .obj ((s, d) :: rest) =>
    calc (tokens (.obj ((s, d) :: rest)) ++ ts).foldlM step (.value around)
      _ = (d.tokens ++ (fieldTokens rest ++ ts)).foldlM step (.value (.obj [] s :: around)) := by
        rw [tokens, List.append_assoc]
        rfl
      _ = (fieldTokens rest ++ ts).foldlM step (.finished d (.obj [] s :: around)) :=
        foldlM_tokens d _ _
      _ = ts.foldlM step (.finished (.obj ((s, d) :: rest)) around) :=
        foldlM_fieldTokens rest s d [] _ _

theorem foldlM_itemTokens (items : List Document) (d : Document) (done : List Document)
    (around : List Frame) (ts : List Token) :
    (itemTokens items ++ ts).foldlM step (.finished d (.arr done :: around)) =
      ts.foldlM step (.finished (.arr (done.reverse ++ d :: items)) around) := by
  match items with
  | [] =>
    rw [← List.reverse_cons]
    rfl
  | d' :: rest =>
    calc (itemTokens (d' :: rest) ++ ts).foldlM step (.finished d (.arr done :: around))
      _ = (d'.tokens ++ (itemTokens rest ++ ts)).foldlM step
          (.value (.arr (d :: done) :: around)) := by
        rw [itemTokens, List.append_assoc]
        rfl
      _ = (itemTokens rest ++ ts).foldlM step (.finished d' (.arr (d :: done) :: around)) :=
        foldlM_tokens d' _ _
      _ = ts.foldlM step (.finished (.arr (done.reverse ++ d :: d' :: rest)) around) := by
        rw [foldlM_itemTokens rest d', List.reverse_cons, List.append_assoc]
        rfl

theorem foldlM_fieldTokens (fields : List (List Char × Document)) (s : List Char) (d : Document)
    (done : List (List Char × Document)) (around : List Frame) (ts : List Token) :
    (fieldTokens fields ++ ts).foldlM step (.finished d (.obj done s :: around)) =
      ts.foldlM step (.finished (.obj (done.reverse ++ (s, d) :: fields)) around) := by
  match fields with
  | [] =>
    rw [← List.reverse_cons]
    rfl
  | (s', d') :: rest =>
    calc (fieldTokens ((s', d') :: rest) ++ ts).foldlM step (.finished d (.obj done s :: around))
      _ = (d'.tokens ++ (fieldTokens rest ++ ts)).foldlM step
          (.value (.obj ((s, d) :: done) s' :: around)) := by
        rw [fieldTokens, List.append_assoc]
        rfl
      _ = (fieldTokens rest ++ ts).foldlM step
          (.finished d' (.obj ((s, d) :: done) s' :: around)) := foldlM_tokens d' _ _
      _ = ts.foldlM step
          (.finished (.obj (done.reverse ++ (s, d) :: (s', d') :: rest)) around) := by
        rw [foldlM_fieldTokens rest s' d', List.reverse_cons, List.append_assoc]
        rfl
end

theorem ofTokens?_tokens (d : Document) : ofTokens? d.tokens = some d := by
  have h := foldlM_tokens d [] []
  rw [List.append_nil] at h
  rw [ofTokens?, h]
  rfl

end Document

/-! ## The document of a value -/

/-- No integer in the value is negative. -/
inductive Writable : Json → Prop
  | null : Writable .null
  | bool (b : Bool) : Writable (.bool b)
  | nat (n : Nat) : Writable (.nat n)
  | double (x : Binary64) : Writable (.double x)
  | str (s : String) : Writable (.str s)
  | arr {items : List Json} (h : ∀ v ∈ items, Writable v) : Writable (.arr items)
  | obj {fields : List (String × Json)} (h : ∀ f ∈ fields, Writable f.2) : Writable (.obj fields)

/-- The numeral of a natural number or a double; other numbers are not considered here. -/
def Number.numeral : Number → Numeral
  | .int n => Json.numeral n.toNat
  | .double x => doubleNumeral x

mutual
/-- The document that a value is written as. -/
def document : Json → Document
  | .null => .null
  | .bool b => .bool b
  | .num n => .num n.numeral
  | .str s => .str (body s)
  | .arr items => .arr (documents items)
  | .obj fields => .obj (fieldDocuments fields)

/-- The documents that some values are written as. -/
def documents : List Json → List Document
  | [] => []
  | v :: rest => v.document :: documents rest

/-- The fields that some fields are written as. -/
def fieldDocuments : List (String × Json) → List (List Char × Document)
  | [] => []
  | (k, v) :: rest => (body k, v.document) :: fieldDocuments rest
end

open Document

theorem ends_prettyItems (level : Nat) (items : List Json) (rest : List Char) :
    ends (prettyItems level items ++ rest) = true := by
  cases items <;> rfl

theorem ends_prettyFields (level : Nat) (fields : List (String × Json)) (rest : List Char) :
    ends (prettyFields level fields ++ rest) = true := by
  cases fields <;> rfl

mutual
/-- A value's text is cut into the tokens of its document. -/
theorem cut_prettyChars {v : Json} (hv : Writable v) (level : Nat) {rest : List Char}
    {ts : List Token} (hends : ends rest = true) (h : Cut rest ts) :
    Cut (prettyChars level v ++ rest) (v.document.tokens ++ ts) := by
  match v, hv with
  | .null, _ => exact h.token (c := 'n') rfl rfl (by simp; omega)
  | .bool true, _ => exact h.token (c := 't') rfl rfl (by simp; omega)
  | .bool false, _ => exact h.token (c := 'f') rfl rfl (by simp; omega)
  | .str s, _ => exact h.quoted s
  | .num _, .nat n =>
    rw [prettyChars, toList_text_nat, ← chars_numeral]
    exact h.numeral (wellFormed_numeral n) hends
  | .num _, .double x =>
    rw [prettyChars, Number.text, toList_doubleText]
    exact h.numeral (wellFormed_doubleNumeral x) hends
  | .arr [], _ => exact (h.token (c := ']') rfl rfl le_rfl).token (c := '[') rfl rfl le_rfl
  | .obj [], _ => exact (h.token (c := '}') rfl rfl le_rfl).token (c := '{') rfl rfl le_rfl
  | .arr (v :: items), .arr hitems =>
    obtain ⟨hv, hitems⟩ := List.forall_mem_cons.1 hitems
    have hrest := cut_prettyItems items hitems level h
    have hfirst := cut_prettyChars hv (level + 1) (ends_prettyItems level items rest) hrest
    have hopen := (hfirst.newline (level + 1)).token (c := '[') rfl rfl le_rfl
    simpa [prettyChars, document, documents, tokens] using hopen
  | .obj ((k, v) :: fields), .obj hfields =>
    obtain ⟨hv, hfields⟩ := List.forall_mem_cons.1 hfields
    have hrest := cut_prettyFields fields hfields level h
    have hfirst := cut_prettyChars hv (level + 1) (ends_prettyFields level fields rest) hrest
    have hcolon := (hfirst.blank (c := ' ') rfl).token (c := ':') rfl rfl le_rfl
    have hopen := ((hcolon.quoted k).newline (level + 1)).token (c := '{') rfl rfl le_rfl
    simpa [prettyChars, document, fieldDocuments, tokens] using hopen

theorem cut_prettyItems (items : List Json) (hitems : ∀ v ∈ items, Writable v) (level : Nat)
    {rest : List Char} {ts : List Token} (h : Cut rest ts) :
    Cut (prettyItems level items ++ rest) (itemTokens (documents items) ++ ts) := by
  match items with
  | [] =>
    have hclose := (h.token (c := ']') rfl rfl le_rfl).newline level
    simpa [prettyItems, documents, itemTokens] using hclose
  | v :: items =>
    obtain ⟨hv, hitems⟩ := List.forall_mem_cons.1 hitems
    have hrest := cut_prettyItems items hitems level h
    have hfirst := cut_prettyChars hv (level + 1) (ends_prettyItems level items rest) hrest
    have hcomma := (hfirst.newline (level + 1)).token (c := ',') rfl rfl le_rfl
    simpa [prettyItems, documents, itemTokens] using hcomma

theorem cut_prettyFields (fields : List (String × Json)) (hfields : ∀ f ∈ fields, Writable f.2)
    (level : Nat) {rest : List Char} {ts : List Token} (h : Cut rest ts) :
    Cut (prettyFields level fields ++ rest) (fieldTokens (fieldDocuments fields) ++ ts) := by
  match fields with
  | [] =>
    have hclose := (h.token (c := '}') rfl rfl le_rfl).newline level
    simpa [prettyFields, fieldDocuments, fieldTokens] using hclose
  | (k, v) :: fields =>
    obtain ⟨hv, hfields⟩ := List.forall_mem_cons.1 hfields
    have hrest := cut_prettyFields fields hfields level h
    have hfirst := cut_prettyChars hv (level + 1) (ends_prettyFields level fields rest) hrest
    have hcolon := (hfirst.blank (c := ' ') rfl).token (c := ':') rfl rfl le_rfl
    have hcomma := ((hcolon.quoted k).newline (level + 1)).token (c := ',') rfl rfl le_rfl
    simpa [prettyFields, fieldDocuments, fieldTokens] using hcomma
end

/-- What is read from a value's text, with blanks behind it, is the value's document. -/
theorem read?_pretty {v : Json} (hv : Writable v) (blanks : String)
    (hblanks : blanks.toList.all isBlank = true) :
    Document.read? (v.pretty ++ blanks) = some v.document := by
  rw [List.all_eq_true] at hblanks
  have hend : Cut blanks.toList [] := by
    have hcut := Cut.nil.blanks hblanks
    rwa [List.append_nil] at hcut
  have hends : ends blanks.toList = true := by
    cases hchars : blanks.toList with
    | nil => rfl
    | cons c cs =>
      have hc := hblanks c (by rw [hchars]; exact List.mem_cons_self)
      simp only [isBlank, Bool.or_eq_true, decide_eq_true_eq] at hc
      obtain ((rfl | rfl) | rfl) | rfl := hc <;> rfl
  have hcut := cut_prettyChars hv 0 hends hend
  rw [List.append_nil] at hcut
  have htext : (v.pretty ++ blanks).toList = prettyChars 0 v ++ blanks.toList := by simp [pretty]
  rw [Document.read?, htext, hcut.tokens?_eq, Option.bind_some, ofTokens?_tokens]

end Trials.Json
