import Mathlib.Data.List.Chain
import PocketCalc.Expression
import PocketCalc.Proofs.NumberText

/-!
# Drafts

A draft is an expression without its display: the tokens and the fragment behind them. The display
is the text of both. A draft is well formed if its tokens alternate between numbers and operators,
the fragment is what may come next, no plus has a sign behind it and no zero stands in front of the
first numeral. Being extended, being replaced, turning into a token and being taken back keep a
draft well formed.
-/
namespace PocketCalc

def tokensText (tokens : List Token) : List Char := tokens.flatMap Token.text

@[simp] theorem tokensText_nil : tokensText [] = [] := rfl

@[simp] theorem tokensText_append (a b : List Token) :
    tokensText (a ++ b) = tokensText a ++ tokensText b := List.flatMap_append

@[simp] theorem tokensText_cons (t : Token) (rest : List Token) :
    tokensText (t :: rest) = t.text ++ tokensText rest := List.flatMap_cons

@[simp] theorem tokensText_singleton (t : Token) : tokensText [t] = t.text := by simp [tokensText]

theorem Operator.text_of_symbol? {op : Operator} {c : Char} (h : op.symbol? = some c) :
    op.text = [c] := by simp [text, h]

theorem Operator.exists_symbol?_of_ne {op : Operator} (h : op ≠ .placeholder) :
    ∃ c, op.symbol? = some c := by
  cases op with
  | placeholder => exact absurd rfl h
  | plus | minus | times | divide | percent => exact ⟨_, rfl⟩

/-- Whether a token may stand at a place. Numbers stand at even places and have the value their text
is read as; operators stand at odd places. -/
def Token.Fits (i : Nat) : Token → Prop
  | number value literal => i % 2 = 0 ∧ IsLiteral literal ∧ Numeral.read? literal = some value
  | operator op => i % 2 = 1 ∧ op ≠ .placeholder

/-- Whether tokens are numbers and operators in turn, the first one a number. -/
def Alternating (tokens : List Token) : Prop :=
  ∀ (i : Nat) (t : Token), tokens[i]? = some t → t.Fits i

@[simp] theorem alternating_nil : Alternating [] := by simp [Alternating]

theorem alternating_append_singleton {tokens : List Token} {t : Token} :
    Alternating (tokens ++ [t]) ↔ Alternating tokens ∧ t.Fits tokens.length := by
  constructor
  · intro h
    refine ⟨fun i u hu => h i u ?_, h tokens.length t (by simp)⟩
    rw [List.getElem?_append_left (List.getElem?_eq_some_iff.1 hu).1, hu]
  · rintro ⟨h, ht⟩ i u hu
    obtain hi | rfl | hi := lt_trichotomy i tokens.length
    · exact h i u (by rwa [List.getElem?_append_left hi] at hu)
    · simp only [List.getElem?_concat_length, Option.some.injEq] at hu
      exact hu ▸ ht
    · have hlen : (tokens ++ [t]).length ≤ i := by simp; omega
      simp [List.getElem?_eq_none hlen] at hu

/-- What the fragment may be behind a number of tokens. -/
inductive FragmentFits : Nat → List Char → Prop
  | blank {n : Nat} : n = 0 → FragmentFits n []
  | numeral {n : Nat} {text : List Char} : n % 2 = 0 → IsLiteral text → FragmentFits n text
  | sign {n : Nat} : n % 2 = 0 → FragmentFits n ['-']
  | operator {n : Nat} {op : Operator} {c : Char} :
      n % 2 = 1 → op.symbol? = some c → FragmentFits n [c]

/-- Whether a text may stand behind another one: no sign follows a plus. -/
def MayFollow (front back : List Char) : Prop := front = ['+'] → back.head? ≠ some '-'

/-- Tokens and the fragment behind them. -/
structure Draft where
  tokens : List Token
  pending : List Char

namespace Draft

def blank : Draft := ⟨[], []⟩

def text (d : Draft) : List Char := tokensText d.tokens ++ d.pending

/-- The expression whose display is the text of the draft. -/
def expression (d : Draft) : Expression := ⟨d.tokens, d.pending, shown d.text, false⟩

def extend (d : Draft) (text : List Char) : Draft := { d with pending := d.pending ++ text }

def replace (d : Draft) (text : List Char) : Draft := { d with pending := text }

/-- The fragment as a token, and a new fragment behind it. -/
def push (d : Draft) (t : Token) (next : List Char) : Draft := ⟨d.tokens ++ [t], next⟩

/-- One character less. When that empties the fragment, the last token is the fragment again. -/
def undo (d : Draft) : Draft :=
  match d.pending.dropLast, d.tokens.getLast? with
  | [], some t => ⟨d.tokens.dropLast, t.text⟩
  | rest, _ => { d with pending := rest }

/-- A draft that typing can lead to. -/
structure WellFormed (d : Draft) : Prop where
  alternating : Alternating d.tokens
  fragment : FragmentFits d.tokens.length d.pending
  unsigned : (d.tokens.map Token.text ++ [d.pending]).IsChain MayFollow
  noLeadingZero : NoLeadingZero d.text

end Draft

theorem isLiteral_ne_nil {text : List Char} (h : IsLiteral text) : text ≠ [] := by
  obtain ⟨n, rfl⟩ := h
  obtain ⟨c, rest, hn, -⟩ := n.text_eq_cons
  simp [hn]

theorem Token.Fits.text_ne_nil {t : Token} {i : Nat} (h : t.Fits i) : t.text ≠ [] := by
  cases t with
  | number value literal => exact isLiteral_ne_nil h.2.1
  | operator op =>
    obtain ⟨c, hc⟩ := Operator.exists_symbol?_of_ne h.2
    simp [text, Operator.text, hc]

theorem Alternating.of_append_singleton {tokens : List Token} {t : Token}
    (h : Alternating (tokens ++ [t])) : Alternating tokens ∧ t.Fits tokens.length :=
  alternating_append_singleton.1 h

theorem Alternating.exists_number {tokens : List Token} (h : Alternating tokens)
    (hodd : tokens.length % 2 = 1) : ∃ front value literal,
      tokens = front ++ [.number value literal] ∧ IsLiteral literal ∧
        Numeral.read? literal = some value := by
  obtain rfl | ⟨front, t, rfl⟩ := List.eq_nil_or_concat' tokens
  · simp at hodd
  · obtain ⟨-, ht⟩ := h.of_append_singleton
    simp only [List.length_append, List.length_singleton] at hodd
    cases t with
    | number value literal => exact ⟨front, value, literal, rfl, ht.2⟩
    | operator op => have := ht.1; omega

theorem Alternating.exists_operator {tokens : List Token} (h : Alternating tokens)
    (heven : tokens.length % 2 = 0) (hne : tokens ≠ []) : ∃ front op c,
      tokens = front ++ [.operator op] ∧ op.symbol? = some c := by
  obtain rfl | ⟨front, t, rfl⟩ := List.eq_nil_or_concat' tokens
  · exact absurd rfl hne
  · obtain ⟨-, ht⟩ := h.of_append_singleton
    simp only [List.length_append, List.length_singleton] at heven
    cases t with
    | number value literal => have := ht.1; omega
    | operator op =>
      obtain ⟨c, hc⟩ := Operator.exists_symbol?_of_ne ht.2
      exact ⟨front, op, c, rfl, hc⟩

theorem Alternating.text_ne_nil {tokens : List Token} (h : Alternating tokens) (hne : tokens ≠ []) :
    tokensText tokens ≠ [] := by
  obtain rfl | ⟨front, t, rfl⟩ := List.eq_nil_or_concat' tokens
  · exact absurd rfl hne
  · have := h.of_append_singleton.2.text_ne_nil
    simp [this]

theorem isLiteral_singleton {c : Char} (h : IsLiteral [c]) : c.isDigit := by
  obtain ⟨n, hn⟩ := h
  obtain ⟨d, rest, htext, hd⟩ := n.text_eq_cons
  obtain ⟨rfl, rfl⟩ := List.cons.inj (hn.symm.trans htext)
  obtain ⟨-, -, hrest⟩ | ⟨-, hc⟩ := hd
  · exact absurd rfl hrest
  · exact hc

theorem not_isDigit_of_symbol? {op : Operator} {c : Char} (h : op.symbol? = some c) :
    c.isDigit = false := by
  refine Operator.symbol_cases ?_ ?_ ?_ ?_ ?_ h <;> rfl

/-- The fragment is empty only at the beginning. -/
theorem FragmentFits.eq_zero_of_nil {n : Nat} (h : FragmentFits n []) : n = 0 := by
  cases h with
  | blank hn => exact hn
  | numeral _ hlit => exact absurd rfl (isLiteral_ne_nil hlit)

/-- The text of a token may be the fragment in its place. -/
theorem Token.Fits.fragmentFits {t : Token} {n : Nat} (h : t.Fits n) :
    FragmentFits n t.text := by
  cases t with
  | number value literal => exact .numeral h.1 h.2.1
  | operator op =>
    obtain ⟨c, hc⟩ := Operator.exists_symbol?_of_ne h.2
    simpa [Token.text, Operator.text, hc] using FragmentFits.operator h.1 hc

/-- Another text may stand at the end if it follows the one in front as the old one did. -/
theorem isChain_mayFollow {front : List (List Char)} {old new : List Char}
    (h : (front ++ [old]).IsChain MayFollow)
    (hnew : ∀ last ∈ front.getLast?, MayFollow last old → MayFollow last new) :
    (front ++ [new]).IsChain MayFollow := by
  obtain ⟨hchain, -, hlast⟩ := List.isChain_append.1 h
  refine hchain.append (by simp) fun last hl back hback => ?_
  obtain rfl : new = back := by simpa using hback
  exact hnew last hl (hlast last hl old (by simp))

namespace Draft

@[simp] theorem tokens_extend (d : Draft) (text : List Char) :
    (d.extend text).tokens = d.tokens := rfl

@[simp] theorem pending_extend (d : Draft) (text : List Char) :
    (d.extend text).pending = d.pending ++ text := rfl

@[simp] theorem tokens_replace (d : Draft) (text : List Char) :
    (d.replace text).tokens = d.tokens := rfl

@[simp] theorem pending_replace (d : Draft) (text : List Char) :
    (d.replace text).pending = text := rfl

@[simp] theorem tokens_push (d : Draft) (t : Token) (next : List Char) :
    (d.push t next).tokens = d.tokens ++ [t] := rfl

@[simp] theorem pending_push (d : Draft) (t : Token) (next : List Char) :
    (d.push t next).pending = next := rfl

@[simp] theorem text_extend (d : Draft) (text : List Char) :
    (d.extend text).text = d.text ++ text := by
  simp [extend, Draft.text]

theorem text_push (d : Draft) {t : Token} (ht : t.text = d.pending) (next : List Char) :
    (d.push t next).text = d.text ++ next := by
  simp [push, Draft.text, ht]

namespace WellFormed
variable {d : Draft} (h : d.WellFormed)
include h

theorem eq_blank_of_pending_eq_nil (hp : d.pending = []) : d = .blank := by
  have hfragment := h.fragment
  rw [hp] at hfragment
  have hlen := hfragment.eq_zero_of_nil
  obtain ⟨tokens, pending⟩ := d
  simp_all [Draft.blank]

theorem text_eq_nil_iff : d.text = [] ↔ d = .blank := by
  constructor
  · intro ht
    exact h.eq_blank_of_pending_eq_nil (List.append_eq_nil_iff.1 ht).2
  · rintro rfl
    rfl

theorem eq_of_text_eq_zero (ht : d.text = ['0']) : d = ⟨[], ['0']⟩ := by
  have hp : d.pending ≠ [] := fun hp => by
    rw [h.eq_blank_of_pending_eq_nil hp] at ht
    simp [Draft.text, Draft.blank] at ht
  have htokens : d.tokens = [] := by
    by_contra hne
    have htext := h.alternating.text_ne_nil hne
    have hlen := congrArg List.length ht
    have := List.length_pos_iff.2 htext
    have := List.length_pos_iff.2 hp
    simp only [Draft.text, List.length_append, List.length_singleton] at hlen
    omega
  obtain ⟨tokens, pending⟩ := d
  simp_all [Draft.text]

/-- What the last token and the fragment say about signs. -/
theorem mayFollow_getLast {t : Token} (ht : d.tokens.getLast? = some t) :
    MayFollow t.text d.pending := by
  have hlast := (List.isChain_append.1 h.unsigned).2.2
  exact hlast t.text (by simp [ht]) d.pending (by simp)

end WellFormed

theorem wellFormed_blank : blank.WellFormed where
  alternating := by simp [blank]
  fragment := .blank rfl
  unsigned := by simp [blank]
  noLeadingZero := noLeadingZero_of_length_le (by simp [blank, text])

/-- A fragment alone is a draft if it could have been typed first. -/
theorem wellFormed_of_fragment {pending : List Char} (hf : FragmentFits 0 pending)
    (hz : NoLeadingZero pending) : WellFormed ⟨[], pending⟩ where
  alternating := by simp
  fragment := hf
  unsigned := by simp
  noLeadingZero := by simpa [text] using hz

theorem WellFormed.extend {d : Draft} (h : d.WellFormed) (hp : d.pending ≠ []) {text : List Char}
    (hf : FragmentFits d.tokens.length (d.pending ++ text))
    (hz : d.text = ['0'] → ∀ c ∈ text.head?, c.isDigit = false) : (d.extend text).WellFormed where
  alternating := h.alternating
  fragment := hf
  unsigned := by
    refine isChain_mayFollow h.unsigned fun last _ hlast hplus => ?_
    rw [pending_extend, List.head?_append_of_ne_nil _ hp]
    exact hlast hplus
  noLeadingZero := by
    rw [text_extend]
    exact h.noLeadingZero.append (by simp [Draft.text, hp]) hz

theorem WellFormed.push {d : Draft} (h : d.WellFormed) {t : Token} (ht : t.Fits d.tokens.length)
    (htext : t.text = d.pending) {next : List Char} (hf : FragmentFits (d.tokens.length + 1) next)
    (hm : MayFollow d.pending next) (hz : d.text = ['0'] → ∀ c ∈ next.head?, c.isDigit = false) :
    (d.push t next).WellFormed where
  alternating := alternating_append_singleton.2 ⟨h.alternating, ht⟩
  fragment := by simpa [Draft.push] using hf
  unsigned := by
    have hchain := h.unsigned
    rw [← htext] at hchain hm
    have hlast : ([t.text] ++ [next]).IsChain MayFollow := by simpa using hm
    simpa [Draft.push] using hchain.append_overlap hlast (by simp)
  noLeadingZero := by
    have hne := ht.text_ne_nil
    rw [text_push d htext]
    exact h.noLeadingZero.append (by simp [Draft.text, ← htext, hne]) hz

/-- One operator may take the place of another one. -/
theorem WellFormed.replace {d : Draft} (h : d.WellFormed) (hodd : d.tokens.length % 2 = 1)
    {op : Operator} {c : Char} (hc : op.symbol? = some c) : (d.replace [c]).WellFormed where
  alternating := h.alternating
  fragment := .operator hodd hc
  unsigned := by
    refine isChain_mayFollow h.unsigned fun last hl _ hplus => ?_
    -- the text in front is a numeral, and no numeral is a plus
    obtain ⟨ts, value, literal, htokens, hlit, -⟩ := h.alternating.exists_number hodd
    obtain rfl : literal = last := by simpa [htokens, Token.text] using hl
    subst hplus
    exact absurd (isLiteral_singleton hlit) (by decide)
  noLeadingZero := by
    have hne : tokensText d.tokens ≠ [] :=
      h.alternating.text_ne_nil fun hnil => by simp [hnil] at hodd
    refine h.noLeadingZero.of_append.append hne fun _ e he => ?_
    obtain rfl : c = e := by simpa using he
    exact not_isDigit_of_symbol? hc

theorem WellFormed.shorten {tokens : List Token} {front back : List Char}
    (h : WellFormed ⟨tokens, front ++ back⟩) (hne : front ≠ [])
    (hf : FragmentFits tokens.length front) : WellFormed ⟨tokens, front⟩ where
  alternating := h.alternating
  fragment := hf
  unsigned := by
    refine isChain_mayFollow h.unsigned fun last _ hlast hplus => ?_
    rw [← List.head?_append_of_ne_nil front hne]
    exact hlast hplus
  noLeadingZero := by
    have hz := h.noLeadingZero
    simp only [text, ← List.append_assoc] at hz
    exact hz.of_append

/-- The last token may be the fragment again. -/
theorem WellFormed.pop {tokens : List Token} {t : Token} {pending : List Char}
    (h : WellFormed ⟨tokens ++ [t], pending⟩) : WellFormed ⟨tokens, t.text⟩ where
  alternating := h.alternating.of_append_singleton.1
  fragment := h.alternating.of_append_singleton.2.fragmentFits
  unsigned := by simpa using h.unsigned.left_of_append
  noLeadingZero := by
    have hz := h.noLeadingZero
    simp only [text, tokensText_append, tokensText_singleton] at hz
    exact hz.of_append

end Draft
end PocketCalc
