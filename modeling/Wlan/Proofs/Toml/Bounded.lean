import Mathlib.Data.Option.Basic
import Wlan.Toml.Document

/-!
# The integers of a document

An integer is read only if 64 bits with a sign can hold it. Whatever a document makes of the values
that were read, it puts them into arrays and tables and adds none of its own, so that no integer in
it is too large to be written again (`areBounded_of_parse?`).

The way to that is the way of the reader: each of its functions takes what is bounded to what is
bounded, from the plain values over those in brackets and braces up to the sections.
-/

set_option autoImplicit false

namespace Wlan.Toml

/-- Every integer in the value fits 64 bits with a sign. -/
inductive Value.IsBounded : Value → Prop
  | text (s : String) : IsBounded (.text s)
  | integer {n : Int} (h : fits n = true) : IsBounded (.integer n)
  | boolean (b : Bool) : IsBounded (.boolean b)
  | fraction (written : String) : IsBounded (.fraction written)
  | moment (written : String) : IsBounded (.moment written)
  | array (headed : Bool) {elements : List Value} (h : ∀ v ∈ elements, IsBounded v) :
      IsBounded (.array headed elements)
  | table (origin : Origin) {entries : List (String × Value)}
      (h : ∀ e ∈ entries, IsBounded e.2) : IsBounded (.table origin entries)

theorem Value.IsBounded.of_mem {headed : Bool} {elements : List Value} {v : Value}
    (h : IsBounded (.array headed elements)) (hv : v ∈ elements) : v.IsBounded := by
  cases h with
  | array _ h => exact h v hv

/-- What is true of a fold's start and kept by its steps is true of its result. -/
theorem of_foldlM_eq_some {α β : Type} {f : β → α → Option β} {P : β → Prop} {Q : α → Prop}
    (hf : ∀ b a c, P b → Q a → f b a = some c → P c) {l : List α} (hl : ∀ a ∈ l, Q a) {b c : β}
    (hb : P b) (h : l.foldlM f b = some c) : P c := by
  induction l generalizing b with
  | nil =>
    cases h
    exact hb
  | cons a l ih =>
    obtain ⟨hfirst, hrest⟩ := List.forall_mem_cons.mp hl
    rw [List.foldlM_cons, Option.bind_eq_bind, Option.bind_eq_some_iff] at h
    obtain ⟨next, hnext, h⟩ := h
    exact ih hrest (hf b a next hb hfirst hnext) h

/-! ## Tables -/

namespace Entries

def AreBounded (es : Entries) : Prop := ∀ e ∈ es, e.2.IsBounded

variable {es fs : Entries} {key : String} {v : Value}

theorem areBounded_nil : AreBounded [] := fun _ he => absurd he List.not_mem_nil

theorem areBounded_of_isBounded {origin : Origin} (h : (Value.table origin es).IsBounded) :
    es.AreBounded := by
  cases h with
  | table _ h => exact h

theorem AreBounded.append (hes : es.AreBounded) (hv : v.IsBounded) (key : String) :
    AreBounded (es ++ [(key, v)]) :=
  List.forall_mem_append.mpr ⟨hes, List.forall_mem_singleton.mpr hv⟩

theorem AreBounded.lookup (hes : es.AreBounded) (h : es.lookup key = some v) : v.IsBounded := by
  obtain ⟨before, after, rfl, -⟩ := List.lookup_eq_some_iff.mp h
  exact hes _ (List.mem_append_right _ List.mem_cons_self)

theorem AreBounded.add? (hes : es.AreBounded) (hv : v.IsBounded) (h : es.add? key v = some fs) :
    fs.AreBounded := by
  unfold Entries.add? at h
  split at h
  · cases h
  · cases h
    exact hes.append hv key

theorem AreBounded.set (hes : es.AreBounded) (hv : v.IsBounded) (key : String) :
    AreBounded (es.set key v) := by
  unfold Entries.set
  split
  · intro e he
    obtain ⟨⟨k, old⟩, hold, rfl⟩ := List.mem_map.mp he
    dsimp only
    split
    · exact hv
    · exact hes _ hold
  · exact hes.append hv key

end Entries

/-- The last element of an array of tables, changed. -/
theorem isBounded_dropLast_append {elements : List Value} {origin : Origin} {inner : Entries}
    (h : (Value.array true elements).IsBounded) (hinner : inner.AreBounded) :
    (Value.array true (elements.dropLast ++ [.table origin inner])).IsBounded := by
  refine .array _ (List.forall_mem_append.mpr ⟨fun v hv => ?_, ?_⟩)
  · exact h.of_mem (List.dropLast_subset _ hv)
  · exact List.forall_mem_singleton.mpr (.table _ hinner)

/-! ## Assignments -/

theorem areBounded_of_graft {key : String} {v : Value} (hv : v.IsBounded) (ks : List String)
    {origin : Origin} {es fs : Entries} (hes : es.AreBounded)
    (h : graft key v ks origin es = some fs) : fs.AreBounded := by
  induction ks generalizing origin es fs with
  | nil =>
    rw [graft] at h
    split at h
    · exact hes.add? hv h
    · cases h
  | cons k ks ih =>
    rw [graft] at h
    split at h
    · obtain ⟨inner, hinner, h⟩ := Option.bind_eq_some_iff.mp h
      cases h
      exact hes.append (.table _ (ih Entries.areBounded_nil hinner)) k
    · next found hlookup =>
      obtain ⟨inner, hinner, h⟩ := Option.bind_eq_some_iff.mp h
      cases h
      have hfound := Entries.areBounded_of_isBounded (hes.lookup hlookup)
      exact hes.set (.table _ (ih hfound hinner)) k
    · next found hlookup =>
      obtain ⟨inner, hinner, h⟩ := Option.bind_eq_some_iff.mp h
      cases h
      have hfound := Entries.areBounded_of_isBounded (hes.lookup hlookup)
      exact hes.set (.table _ (ih hfound hinner)) k
    · next elements hlookup =>
      have helements := hes.lookup hlookup
      split at h
      · next found hlast =>
        obtain ⟨inner, hinner, h⟩ := Option.bind_eq_some_iff.mp h
        cases h
        have hfound := Entries.areBounded_of_isBounded
          (helements.of_mem (List.mem_of_getLast? hlast))
        exact hes.set (isBounded_dropLast_append helements (ih hfound hinner)) k
      · cases h
    · cases h

theorem areBounded_of_assign {es fs : Entries} {path : Path} {v : Value} (hes : es.AreBounded)
    (hv : v.IsBounded) (h : assign es path v = some fs) : fs.AreBounded := by
  unfold assign at h
  split at h
  · exact hes.add? hv h
  · exact areBounded_of_graft hv _ hes h

theorem areBounded_of_assignAll {es fs : Entries} {assignments : List (Path × Value)}
    (hes : es.AreBounded) (hassignments : ∀ a ∈ assignments, a.2.IsBounded)
    (h : assignAll es assignments = some fs) : fs.AreBounded :=
  of_foldlM_eq_some (fun _ _ _ hb ha hc => areBounded_of_assign hb ha hc) hassignments hes h

/-! ## Values -/

theorem fits_of_integer? {cs : List Char} {n : Int} (h : integer? cs = some n) : fits n = true := by
  -- In whatever base the digits are, the number is looked at last.
  have hlast {written : Option Int}
      (h : (written.bind fun m => if fits m = true then some m else none) = some n) :
      fits n = true := by
    obtain ⟨m, -, h⟩ := Option.bind_eq_some_iff.mp h
    split at h
    · next hm =>
      cases h
      exact hm
    · cases h
  unfold integer? at h
  dsimp only at h
  split at h <;> exact hlast h

theorem isBounded_of_ofRun? {run : List Char} {v : Value} (h : ofRun? run = some v) :
    v.IsBounded := by
  unfold ofRun? at h
  split at h
  · cases h
    exact .boolean _
  · split at h
    · cases h
      exact .boolean _
    · split at h
      · next hn =>
        cases h
        exact .integer (fits_of_integer? hn)
      · split at h
        · cases h
          exact .fraction _
        · split at h
          · cases h
            exact .moment _
          · cases h

/-- A reader that makes bounded values. -/
def ReadsBounded (value : List Char → Option (Value × List Char)) : Prop :=
  ∀ cs v rest, value cs = some (v, rest) → v.IsBounded

theorem readsBounded_readPlain : ReadsBounded readPlain := by
  intro cs v rest h
  have hrun {more : List Char}
      (h : (ofRun? (cs.takeWhile isPlain)).map (·, more) = some (v, rest)) : v.IsBounded := by
    obtain ⟨w, hw, heq⟩ := Option.map_eq_some_iff.mp h
    cases heq
    exact isBounded_of_ofRun? hw
  unfold readPlain at h
  dsimp only at h
  split at h
  · split at h
    · split at h
      · cases h
        exact .moment _
      · cases h
    · exact hrun h
  · exact hrun h

variable {value : List Char → Option (Value × List Char)}

theorem isBounded_of_readElements (hvalue : ReadsBounded value) {bound : Nat} {cs : List Char}
    {vs : List Value} {rest : List Char} (h : readElements value bound cs = some (vs, rest)) :
    ∀ v ∈ vs, v.IsBounded := by
  induction bound generalizing cs vs rest with
  | zero => cases h
  | succ bound ih =>
    rw [readElements] at h
    obtain ⟨between, -, h⟩ := Option.bind_eq_some_iff.mp h
    split at h
    · cases h
      exact fun _ hv => absurd hv List.not_mem_nil
    · obtain ⟨⟨first, after⟩, hfirst, h⟩ := Option.bind_eq_some_iff.mp h
      obtain ⟨between, -, h⟩ := Option.bind_eq_some_iff.mp h
      split at h
      · obtain ⟨⟨more, last⟩, hmore, h⟩ := Option.bind_eq_some_iff.mp h
        cases h
        exact List.forall_mem_cons.mpr ⟨hvalue _ _ _ hfirst, ih hmore⟩
      · cases h
        exact List.forall_mem_singleton.mpr (hvalue _ _ _ hfirst)
      · cases h

theorem isBounded_of_readPair (hvalue : ReadsBounded value) {cs : List Char} {pair : Path × Value}
    {rest : List Char} (h : readPair value cs = some (pair, rest)) : pair.2.IsBounded := by
  unfold readPair at h
  obtain ⟨⟨path, after⟩, -, h⟩ := Option.bind_eq_some_iff.mp h
  dsimp only at h
  split at h
  · obtain ⟨⟨v, last⟩, hv, h⟩ := Option.bind_eq_some_iff.mp h
    cases h
    exact hvalue _ _ _ hv
  · cases h

theorem isBounded_of_readPairs (hvalue : ReadsBounded value) {bound : Nat} {cs : List Char}
    {pairs : List (Path × Value)} {rest : List Char}
    (h : readPairs value bound cs = some (pairs, rest)) : ∀ pair ∈ pairs, pair.2.IsBounded := by
  induction bound generalizing cs pairs rest with
  | zero => cases h
  | succ bound ih =>
    rw [readPairs] at h
    obtain ⟨⟨first, after⟩, hfirst, h⟩ := Option.bind_eq_some_iff.mp h
    dsimp only at h
    split at h
    · obtain ⟨⟨more, last⟩, hmore, h⟩ := Option.bind_eq_some_iff.mp h
      cases h
      exact List.forall_mem_cons.mpr ⟨isBounded_of_readPair hvalue hfirst, ih hmore⟩
    · cases h
      exact List.forall_mem_singleton.mpr (isBounded_of_readPair hvalue hfirst)
    · cases h

theorem readsBounded_readValueBelow (depth : Nat) : ReadsBounded (readValueBelow depth) := by
  have hunquote {cs rest : List Char} {v : Value} {read : List Char × List Char → Value × List Char}
      (hread : ∀ p, (read p).1.IsBounded) (h : (unquote cs).map read = some (v, rest)) :
      v.IsBounded := by
    obtain ⟨p, -, heq⟩ := Option.map_eq_some_iff.mp h
    have hp := hread p
    rw [heq] at hp
    exact hp
  induction depth with
  | zero =>
    intro cs v rest h
    cases h
  | succ depth ih =>
    intro cs v rest h
    unfold readValueBelow at h
    split at h
    · exact hunquote (fun p => .text _) h
    · exact hunquote (fun p => .text _) h
    · obtain ⟨⟨vs, after⟩, hvs, h⟩ := Option.bind_eq_some_iff.mp h
      obtain ⟨-, -, h⟩ := Option.bind_eq_some_iff.mp h
      cases h
      exact .array _ (isBounded_of_readElements ih hvs)
    · obtain ⟨-, -, h⟩ := Option.bind_eq_some_iff.mp h
      split at h
      · cases h
        exact .table _ Entries.areBounded_nil
      · obtain ⟨⟨pairs, after⟩, hpairs, h⟩ := Option.bind_eq_some_iff.mp h
        obtain ⟨es, hes, h⟩ := Option.bind_eq_some_iff.mp h
        cases h
        have hbounded := isBounded_of_readPairs ih hpairs
        exact .table _ (areBounded_of_assignAll Entries.areBounded_nil hbounded hes)
    · exact readsBounded_readPlain _ _ _ h

/-! ## Statements and sections -/

/-- A statement that assigns no value but a bounded one. -/
def Statement.IsBounded : Statement → Prop
  | .assignment _ v => v.IsBounded
  | _ => True

theorem isBounded_of_readHeader {cs rest : List Char} {s : Statement}
    (h : readHeader cs = some (s, rest)) : s.IsBounded := by
  unfold readHeader at h
  split at h
  all_goals
    obtain ⟨⟨path, after⟩, -, h⟩ := Option.bind_eq_some_iff.mp h
    dsimp only at h
    split at h
    · obtain ⟨last, -, h⟩ := Option.bind_eq_some_iff.mp h
      cases h
      trivial
    · cases h

theorem isBounded_of_readStatements {bound : Nat} {cs : List Char} {ss : List Statement}
    (h : readStatements bound cs = some ss) : ∀ s ∈ ss, s.IsBounded := by
  induction bound generalizing cs ss with
  | zero => cases h
  | succ bound ih =>
    rw [readStatements] at h
    split at h
    · cases h
      exact fun _ hs => absurd hs List.not_mem_nil
    · exact ih h
    · exact ih h
    · obtain ⟨after, -, h⟩ := Option.bind_eq_some_iff.mp h
      exact ih h
    · obtain ⟨⟨s, after⟩, hs, h⟩ := Option.bind_eq_some_iff.mp h
      obtain ⟨more, hmore, h⟩ := Option.bind_eq_some_iff.mp h
      cases h
      exact List.forall_mem_cons.mpr ⟨isBounded_of_readHeader hs, ih hmore⟩
    · obtain ⟨⟨⟨path, v⟩, after⟩, hpair, h⟩ := Option.bind_eq_some_iff.mp h
      obtain ⟨last, -, h⟩ := Option.bind_eq_some_iff.mp h
      obtain ⟨more, hmore, h⟩ := Option.bind_eq_some_iff.mp h
      cases h
      have hv : v.IsBounded :=
        isBounded_of_readPair (readsBounded_readValueBelow nestingLimit) hpair
      exact List.forall_mem_cons.mpr ⟨hv, ih hmore⟩

/-- A section that assigns no values but bounded ones. -/
def Section.IsBounded (s : Section) : Prop := ∀ a ∈ s.assignments, a.2.IsBounded

theorem isBounded_sections {ss : List Statement} (h : ∀ s ∈ ss, s.IsBounded) :
    (∀ a ∈ (sections ss).1, a.2.IsBounded) ∧ ∀ s ∈ (sections ss).2, s.IsBounded := by
  induction ss with
  | nil => exact ⟨fun _ ha => absurd ha List.not_mem_nil, fun _ hs => absurd hs List.not_mem_nil⟩
  | cons s ss ih =>
    obtain ⟨hfirst, hrest⟩ := List.forall_mem_cons.mp h
    obtain ⟨hown, hmore⟩ := ih hrest
    cases s with
    | assignment path v => exact ⟨List.forall_mem_cons.mpr ⟨hfirst, hown⟩, hmore⟩
    | header path =>
      exact ⟨fun _ ha => absurd ha List.not_mem_nil, List.forall_mem_cons.mpr ⟨hown, hmore⟩⟩
    | element path =>
      exact ⟨fun _ ha => absurd ha List.not_mem_nil, List.forall_mem_cons.mpr ⟨hown, hmore⟩⟩

theorem areBounded_of_place {change : Option Value → Option Value} {key : String}
    (hchange : ∀ present v, (∀ u, present = some u → u.IsBounded) → change present = some v →
      v.IsBounded)
    (ks : List String) {es fs : Entries} (hes : es.AreBounded)
    (h : place change key ks es = some fs) : fs.AreBounded := by
  induction ks generalizing es fs with
  | nil =>
    rw [place] at h
    obtain ⟨v, hv, h⟩ := Option.bind_eq_some_iff.mp h
    cases h
    exact hes.set (hchange _ v (fun u hu => hes.lookup hu) hv) key
  | cons k ks ih =>
    rw [place] at h
    split at h
    · obtain ⟨inner, hinner, h⟩ := Option.bind_eq_some_iff.mp h
      cases h
      exact hes.append (.table _ (ih Entries.areBounded_nil hinner)) k
    · cases h
    · next found _ hlookup =>
      obtain ⟨inner, hinner, h⟩ := Option.bind_eq_some_iff.mp h
      cases h
      have hfound := Entries.areBounded_of_isBounded (hes.lookup hlookup)
      exact hes.set (.table _ (ih hfound hinner)) k
    · next elements hlookup =>
      have helements := hes.lookup hlookup
      split at h
      · next found hlast =>
        obtain ⟨inner, hinner, h⟩ := Option.bind_eq_some_iff.mp h
        cases h
        have hfound := Entries.areBounded_of_isBounded
          (helements.of_mem (List.mem_of_getLast? hlast))
        exact hes.set (isBounded_dropLast_append helements (ih hfound hinner)) k
      · cases h
    · cases h

theorem Section.IsBounded.over {s : Section} (hs : s.IsBounded) (present : Option Value) (v : Value)
    (hpresent : ∀ u, present = some u → u.IsBounded) (h : s.over present = some v) :
    v.IsBounded := by
  unfold Section.over at h
  split at h
  · obtain ⟨element, helement, h⟩ := Option.bind_eq_some_iff.mp h
    have hbounded : (Value.table .header element).IsBounded :=
      .table _ (areBounded_of_assignAll Entries.areBounded_nil hs helement)
    split at h
    · cases h
      exact .array _ (List.forall_mem_singleton.mpr hbounded)
    · cases h
      refine .array _ (List.forall_mem_append.mpr ⟨fun u hu => ?_, List.forall_mem_singleton.mpr hbounded⟩)
      exact (hpresent _ rfl).of_mem hu
    · cases h
  · split at h
    · obtain ⟨es, hes, h⟩ := Option.bind_eq_some_iff.mp h
      cases h
      exact .table _ (areBounded_of_assignAll Entries.areBounded_nil hs hes)
    · obtain ⟨es, hes, h⟩ := Option.bind_eq_some_iff.mp h
      cases h
      have hinner := Entries.areBounded_of_isBounded (hpresent _ rfl)
      exact .table _ (areBounded_of_assignAll hinner hs hes)
    · cases h

/-- **A document holds no integer of more than 64 bits.** -/
theorem areBounded_of_parse? {text : String} {es : Entries} (h : parse? text = some es) :
    es.AreBounded := by
  obtain ⟨ss, hss, h⟩ := Option.bind_eq_some_iff.mp h
  unfold statements at hss
  obtain ⟨hown, hmore⟩ := isBounded_sections (isBounded_of_readStatements hss)
  obtain ⟨first, hfirst, h⟩ := Option.bind_eq_some_iff.mp h
  have hstart := areBounded_of_assignAll Entries.areBounded_nil hown hfirst
  refine of_foldlM_eq_some (fun b s c hb hs hc => ?_) hmore hstart h
  exact areBounded_of_place hs.over s.path.through hb hc

end Wlan.Toml
