import PocketCalc.Proofs.Editing

/-!
# Keys on a draft

What a key does to a draft is a matter of the kind of its fragment: the fragment is extended or
replaced, or it becomes a token and another fragment begins. Keys on the expression of a well-formed
draft do the same, and what they lead to is well formed again. Equals always has a value to show.
-/
namespace PocketCalc

/-- The keys that characters stand for. -/
inductive Key.Legal : Key → Prop
  | digit {d : Char} : d.isDigit → Legal (.digit d)
  | point : Legal .point
  | operator {op : Operator} {symbol : Char} : op.symbol? = some symbol → Legal (.operator op)
  | equals : Legal .equals

theorem Operator.exists_symbol?_of_ofSymbol? {op : Operator} {c : Char}
    (h : Operator.ofSymbol? c = some op) : ∃ symbol, op.symbol? = some symbol := by
  unfold ofSymbol? at h
  split at h <;> simp only [Option.some.injEq, reduceCtorEq] at h <;> subst h <;> exact ⟨_, rfl⟩

theorem Key.legal_of_ofChar {c : Char} {key : Key} (h : Key.ofChar c = .ok key) : key.Legal := by
  unfold Key.ofChar at h
  split at h
  · obtain rfl := Except.ok.inj h
    exact .digit ‹_›
  split at h
  · obtain rfl := Except.ok.inj h
    exact .point
  split at h
  · obtain rfl := Except.ok.inj h
    exact .equals
  cases hop : Operator.ofSymbol? c with
  | none => simp [Operator.ofChar, hop, Except.map] at h
  | some op =>
    simp only [Operator.ofChar, hop, Except.map, Except.ok.injEq] at h
    subst h
    obtain ⟨symbol, hs⟩ := Operator.exists_symbol?_of_ofSymbol? hop
    exact .operator hs

namespace Draft

/-- What a well-formed draft looks like, by the kind of its fragment. -/
inductive Shape (d : Draft) : FragmentKind → Prop
  | empty : d = blank → Shape d .empty
  | number {value : Float} : d.tokens.length % 2 = 0 → IsLiteral d.pending →
      Numeral.read? d.pending = some value → Shape d .number
  | sign : d.tokens.length % 2 = 0 → d.pending = ['-'] → Shape d .sign
  | operator {op : Operator} {c : Char} : d.tokens.length % 2 = 1 → op.symbol? = some c →
      d.pending = [c] → Shape d (.operator op)

theorem WellFormed.shape {d : Draft} (h : d.WellFormed) : d.Shape d.kind := by
  obtain ⟨tokens, pending⟩ := d
  cases h.fragment with
  | blank _ => exact .empty (h.eq_blank_of_pending_eq_nil rfl)
  | numeral heven hlit =>
    obtain ⟨value, hread⟩ := hlit.exists_read?
    rw [kind, Expression.kindOf_of_isLiteral tokens hlit]
    exact .number heven hlit hread
  | sign heven =>
    rw [kind, Expression.kindOf_minus h.alternating heven]
    exact .sign heven rfl
  | operator hodd hc =>
    rw [kind, Expression.kindOf_of_symbol? h.alternating hodd hc]
    exact .operator hodd hc rfl

/-- The token that the fragment stands for. -/
def token (d : Draft) : Token :=
  match d.kind with
  | .operator op => .operator op
  | _ => .number ((Numeral.read? d.pending).getD 0) d.pending

def pressNumber (d : Draft) : Key → Draft
  | .digit c => d.extend [c]
  | .point => if '.' ∈ d.pending then d else d.extend ['.']
  | .operator op => d.push d.token op.text
  | .equals => d

def pressSign (d : Draft) : Key → Draft
  | .digit c => d.extend [c]
  | .point => d.extend ['0', '.']
  | .operator _ | .equals => d

def pressOperator (d : Draft) (op : Operator) : Key → Draft
  | .digit c => d.push d.token [c]
  | .point => d.push d.token ['0', '.']
  | .operator .minus => if op = .plus then d.replace ['-'] else d.push d.token ['-']
  | .operator new => d.replace new.text
  | .equals => d

/-- What a key other than equals does to a draft that has begun. -/
def press (d : Draft) (key : Key) : Draft :=
  match d.kind with
  | .empty => d
  | .number => d.pressNumber key
  | .sign => d.pressSign key
  | .operator op => d.pressOperator op key

def first (text : List Char) : Draft := ⟨[], text⟩

/-- What a key other than equals does to a draft. On nothing or a single zero only the start
of a number counts. -/
def step (d : Draft) (key : Key) : Draft :=
  if d.text = [] ∨ d.text = ['0'] then
    match Expression.openingText? key with
    | some text => first text
    | none => d
  else d.press key

/-- The tokens that equals evaluates: a sign alone adds nothing. -/
def finished (d : Draft) : List Token :=
  match d.kind with
  | .number | .operator _ => d.tokens ++ [d.token]
  | .empty | .sign => d.tokens

theorem wellFormed_opening {key : Key} (hkey : key.Legal) {text : List Char}
    (h : Expression.openingText? key = some text) : (first text).WellFormed ∧ text ≠ [] := by
  cases hkey with
  | digit hc =>
    obtain rfl := Option.some.inj h
    have hf := FragmentFits.numeral (n := 0) rfl (isLiteral_digit hc)
    exact ⟨wellFormed_of_fragment hf (noLeadingZero_of_length_le (by simp)), by simp⟩
  | point =>
    obtain rfl := Option.some.inj h
    have hlit := (isLiteral_digit (d := '0') rfl).append_point (by decide)
    have hz : NoLeadingZero ['0', '.'] := by
      intro d rest he
      cases he
      rfl
    exact ⟨wellFormed_of_fragment (.numeral rfl hlit) hz, by simp⟩
  | @operator op s hs =>
    by_cases hm : op = .minus
    · subst hm
      obtain rfl := Option.some.inj h
      exact ⟨wellFormed_of_fragment (.sign rfl) (noLeadingZero_of_length_le (by simp)), by simp⟩
    · cases op <;> simp_all [Expression.openingText?]
  | equals => cases h

/-- A key on an expression that shows no result begins a number or acts on the fragment. -/
theorem step_expression_eq (d : Draft) (key : Key) : d.expression.step key =
      if d.text = [] ∨ d.text = ['0'] then .ok (d.expression.begin key)
      else d.expression.press key := by
  have hdisplay : d.expression.display = emptyDisplay ↔ d.text = [] ∨ d.text = ['0'] :=
    shown_eq_emptyDisplay_iff
  have hprepare : d.expression.prepare key = d.expression := by simp [Expression.prepare]
  have hcarries : d.expression.carriesOver key = false := by simp [Expression.carriesOver]
  simp only [Expression.step, hprepare, hdisplay, hcarries, and_true]

namespace WellFormed
variable {d : Draft} (h : d.WellFormed)
include h

theorem eq_blank_of_kind (hk : d.kind = .empty) : d = blank := by
  have hshape := h.shape
  rw [hk] at hshape
  obtain ⟨hblank⟩ := hshape
  exact hblank

theorem number_of_kind (hk : d.kind = .number) : d.tokens.length % 2 = 0 ∧ IsLiteral d.pending := by
  have hshape := h.shape
  rw [hk] at hshape
  obtain - | ⟨heven, hlit, -⟩ := hshape
  exact ⟨heven, hlit⟩

theorem sign_of_kind (hk : d.kind = .sign) : d.tokens.length % 2 = 0 ∧ d.pending = ['-'] := by
  have hshape := h.shape
  rw [hk] at hshape
  obtain - | - | ⟨heven, hp⟩ := hshape
  exact ⟨heven, hp⟩

theorem operator_of_kind {op : Operator} (hk : d.kind = .operator op) :
    d.tokens.length % 2 = 1 ∧ ∃ c, op.symbol? = some c ∧ d.pending = [c] := by
  have hshape := h.shape
  rw [hk] at hshape
  obtain - | - | - | ⟨hodd, hc, hp⟩ := hshape
  exact ⟨hodd, _, hc, hp⟩

theorem token_spec (hk : d.kind ≠ .empty) (hs : d.kind ≠ .sign) :
    Expression.tokenOf d.pending = .ok d.token ∧ d.token.text = d.pending ∧
      d.token.Fits d.tokens.length := by
  have hshape := h.shape
  unfold token
  generalize d.kind = kind at hshape hk hs
  cases hshape with
  | empty _ => exact absurd rfl hk
  | sign _ _ => exact absurd rfl hs
  | number heven hlit hread =>
    simp only [hread, Option.getD_some]
    exact ⟨Expression.tokenOf_of_isLiteral hlit hread, rfl, heven, hlit, hread⟩
  | operator hodd hc hp =>
    rw [hp]
    refine ⟨Expression.tokenOf_of_symbol? hc, by simp [Token.text, Operator.text, hc], hodd, ?_⟩
    rintro rfl
    simp [Operator.symbol?] at hc

theorem ne_blank_of_kind (hk : d.kind ≠ .empty) : d ≠ blank := by
  rintro rfl
  exact hk rfl

theorem commit_eq (hk : d.kind ≠ .empty) (hs : d.kind ≠ .sign) {next : List Char}
    (hne : next ≠ []) :
    d.expression.commit next false = .ok (d.push d.token next).expression := by
  obtain ⟨ht, htext, -⟩ := h.token_spec hk hs
  exact h.commit_expression ht htext (h.ne_blank_of_kind hk) hne

theorem pressDigit_expression (hk : d.kind ≠ .empty) (c : Char) :
    d.expression.pressDigit c = .ok (d.press (.digit c)).expression := by
  have happend : d.expression.append [c] = (d.extend [c]).expression :=
    h.append_expression (by simp)
  simp only [Expression.pressDigit, fragmentKind_expression, press]
  cases hkind : d.kind with
  | empty => exact absurd hkind hk
  | number => simp only [pressNumber, happend]
  | sign => simp only [pressSign, happend]
  | operator op => exact h.commit_eq (by simp [hkind]) (by simp [hkind]) (by simp)

theorem pressPoint_expression (hk : d.kind ≠ .empty) :
    d.expression.pressPoint = .ok (d.press .point).expression := by
  simp only [Expression.pressPoint, fragmentKind_expression, pending_expression, press]
  cases hkind : d.kind with
  | empty => exact absurd hkind hk
  | number =>
    by_cases hp : '.' ∈ d.pending
    · simp [hp, pressNumber]
    · simp [hp, pressNumber, h.append_expression]
  | sign => simp [pressSign, h.append_expression]
  | operator op => exact h.commit_eq (by simp [hkind]) (by simp [hkind]) (by simp)

theorem pressMinus_expression (hk : d.kind ≠ .empty) :
    d.expression.pressMinus = .ok (d.press (.operator .minus)).expression := by
  have hreplace := h.replacePending_expression (h.ne_blank_of_kind hk) ['-']
  have hcommit (hs : d.kind ≠ .sign) :
      d.expression.commit ['-'] false = .ok (d.push d.token ['-']).expression :=
    h.commit_eq hk hs (by simp)
  simp only [Expression.pressMinus, fragmentKind_expression, press]
  cases hkind : d.kind with
  | empty => exact absurd hkind hk
  | number => exact hcommit (by simp [hkind])
  | sign => rfl
  | operator op =>
    cases op with
    | plus => simp [pressOperator, hreplace]
    | minus | times | divide | percent | placeholder =>
      simpa [pressOperator] using hcommit (by simp [hkind])

theorem pressOperator_expression (hk : d.kind ≠ .empty) {op : Operator} {c : Char}
    (hc : op.symbol? = some c) (hm : op ≠ .minus) :
    d.expression.pressOperator op = .ok (d.press (.operator op)).expression := by
  have htext : op.text = [c] := by simp [Operator.text, hc]
  have hreplace := h.replacePending_expression (h.ne_blank_of_kind hk) [c]
  simp only [Expression.pressOperator, hc, fragmentKind_expression, press]
  cases hkind : d.kind with
  | empty => exact absurd hkind hk
  | number =>
    have hcommit : d.expression.commit [c] false = .ok (d.push d.token [c]).expression :=
      h.commit_eq hk (by simp [hkind]) (by simp)
    simpa [pressNumber, htext] using hcommit
  | sign => rfl
  | operator old => simp [pressOperator, htext, hreplace]

theorem press_expression (hk : d.kind ≠ .empty) {key : Key} (hkey : key.Legal)
    (he : key ≠ .equals) : d.expression.press key = .ok (d.press key).expression := by
  cases hkey with
  | digit _ => exact h.pressDigit_expression hk _
  | point => exact h.pressPoint_expression hk
  | operator hc =>
    rename_i op c
    by_cases hm : op = .minus
    · subst hm
      exact h.pressMinus_expression hk
    · have hpress : d.expression.press (.operator op) = d.expression.pressOperator op := by
        cases op with
        | minus => exact absurd rfl hm
        | plus | times | divide | percent | placeholder => rfl
      rw [hpress, h.pressOperator_expression hk hc hm]
  | equals => exact absurd rfl he

/-- Only a numeral shows a single zero. -/
theorem text_ne_zero (hk : d.kind ≠ .number) : d.text ≠ ['0'] := by
  intro ht
  rw [h.eq_of_text_eq_zero ht] at hk
  exact hk rfl

/-- A fragment that stands for a token may be followed by any text that fits there. -/
theorem push_token (hk : d.kind ≠ .empty) (hs : d.kind ≠ .sign) {next : List Char}
    (hf : FragmentFits (d.tokens.length + 1) next)
    (hm : d.kind = .operator .plus → next.head? ≠ some '-')
    (hz : d.text = ['0'] → ∀ c ∈ next.head?, c.isDigit = false) :
    (d.push d.token next).WellFormed := by
  obtain ⟨-, htext, hfits⟩ := h.token_spec hk hs
  refine h.push hfits htext hf (fun hplus => hm ?_) hz
  cases hkind : d.kind with
  | empty => exact absurd hkind hk
  | sign => exact absurd hkind hs
  | number =>
    have hlit := (h.number_of_kind hkind).2
    exact absurd (isLiteral_singleton (hplus ▸ hlit)) (by decide)
  | operator op =>
    obtain ⟨-, c, hc, hp⟩ := h.operator_of_kind hkind
    obtain rfl : c = '+' := List.singleton_inj.1 (hp.symm.trans hplus)
    have hop := Option.some.inj ((Operator.ofSymbol?_of_symbol? hc).symm.trans rfl)
    rw [hop]

theorem press_number (hk : d.kind = .number) {key : Key} (hkey : key.Legal)
    (hz : d.text = ['0'] → key.isDigit = false) : (d.press key).WellFormed := by
  obtain ⟨heven, hlit⟩ := h.number_of_kind hk
  have hne := isLiteral_ne_nil hlit
  simp only [press, hk]
  cases hkey with
  | digit hc =>
    refine h.extend hne (.numeral heven (hlit.append_digit hc)) fun ht => ?_
    exact absurd (hz ht) (by simp [Key.isDigit])
  | point =>
    dsimp only [pressNumber]
    split
    · exact h
    · next hp => exact h.extend hne (.numeral heven (hlit.append_point hp)) fun _ => by simp
  | operator hc =>
    rw [pressNumber, Operator.text_of_symbol? hc]
    have hf : FragmentFits (d.tokens.length + 1) [_] := .operator (by omega) hc
    refine h.push_token (by simp [hk]) (by simp [hk]) hf (by simp [hk]) fun _ => ?_
    simpa using not_isDigit_of_symbol? hc
  | equals => exact h

theorem press_sign (hk : d.kind = .sign) {key : Key} (hkey : key.Legal) :
    (d.press key).WellFormed := by
  obtain ⟨heven, hp⟩ := h.sign_of_kind hk
  have hzero := h.text_ne_zero (by simp [hk])
  have hne : d.pending ≠ [] := by simp [hp]
  simp only [press, hk]
  cases hkey with
  | digit hc =>
    refine h.extend hne (.numeral heven ?_) fun ht => absurd ht hzero
    simpa [hp] using isLiteral_minus_digit hc
  | point =>
    refine h.extend hne (.numeral heven ?_) fun ht => absurd ht hzero
    simpa [hp] using (isLiteral_minus_digit (d := '0') rfl).append_point (by decide)
  | operator _ => exact h
  | equals => exact h

theorem press_operator {op : Operator} (hk : d.kind = .operator op) {key : Key} (hkey : key.Legal) :
    (d.press key).WellFormed := by
  have hodd := (h.operator_of_kind hk).1
  have hzero := h.text_ne_zero (by simp [hk])
  have hpush {next : List Char} (hf : FragmentFits (d.tokens.length + 1) next)
      (hm : op = .plus → next.head? ≠ some '-') : (d.push d.token next).WellFormed :=
    h.push_token (by simp [hk]) (by simp [hk]) hf (fun hplus => hm (by simpa [hk] using hplus))
      fun ht => absurd ht hzero
  have heven : (d.tokens.length + 1) % 2 = 0 := by omega
  simp only [press, hk]
  cases hkey with
  | digit hd =>
    refine hpush (.numeral heven (isLiteral_digit hd)) fun _ => ?_
    simpa using ne_of_isDigit hd (by decide)
  | point =>
    have hlit := (isLiteral_digit (d := '0') rfl).append_point (by decide)
    exact hpush (.numeral heven hlit) (by simp)
  | @operator new s hs =>
    have hreplace := h.replace hodd hs
    rw [← Operator.text_of_symbol? hs] at hreplace
    by_cases hm : new = .minus
    · subst hm
      by_cases hplus : op = .plus
      · rw [pressOperator, if_pos hplus]
        exact hreplace
      · rw [pressOperator, if_neg hplus]
        exact hpush (.sign heven) fun h => absurd h hplus
    · simpa [pressOperator, hm] using hreplace
  | equals => exact h

theorem press {key : Key} (hkey : key.Legal) (hz : d.text = ['0'] → key.isDigit = false) :
    (d.press key).WellFormed := by
  cases hk : d.kind with
  | empty => simpa [Draft.press, hk] using h
  | number => exact h.press_number hk hkey hz
  | sign => exact h.press_sign hk hkey
  | operator op => exact h.press_operator hk hkey

/-- A key keeps a draft well formed. -/
theorem step {key : Key} (hkey : key.Legal) : (d.step key).WellFormed := by
  unfold Draft.step
  split
  · cases hopen : Expression.openingText? key with
    | none => exact h
    | some text => exact (wellFormed_opening hkey hopen).1
  · next hne => exact h.press hkey fun ht => absurd (.inr ht) hne

/-- A key on the expression of a draft does what it does to the draft. -/
theorem step_expression {key : Key} (hkey : key.Legal)
    (he : key = .equals → d.text = [] ∨ d.text = ['0']) :
    d.expression.step key = .ok (d.step key).expression := by
  rw [step_expression_eq]
  unfold Draft.step
  split
  · cases hopen : Expression.openingText? key with
    | none => simp [Expression.begin, hopen]
    | some text =>
      have hne := (wellFormed_opening hkey hopen).2
      simp only [Expression.begin, hopen]
      exact congrArg Except.ok (wellFormed_blank.append_expression hne)
  · next hne =>
    have hk : d.kind ≠ .empty := by
      intro hk
      obtain rfl := h.eq_blank_of_kind hk
      exact hne (.inl rfl)
    exact h.press_expression hk hkey fun hequals => hne (he hequals)

end WellFormed
end Draft
end PocketCalc
