import PocketCalc.Proofs.ReadBack
import PocketCalc.Proofs.Subtotal

/-!
# A total in place of its tokens

Equals in front of an operator replaces all tokens by their total. From then on the tokens and the
display are others, but every key does the same to the fragment and to the subtotal, since folding
goes from left to right. The next equals shows the same result, and nothing is left of the
difference.
-/
namespace PocketCalc

namespace Evaluation

/-- Where pairs can be folded, their place does not matter. -/
theorem foldPairs_index {total value : Float} {index : Nat} {tokens : List Token}
    (h : foldPairs total index tokens = .ok value) (place : Nat) :
    foldPairs total place tokens = .ok value := by
  fun_induction foldPairs total index tokens generalizing place with
  | case1 => exact h
  | case2 => cases h
  | case3 => exact h
  | case4 => cases h
  | case5 total index op next literal rest result happly ih =>
    rw [foldPairs, happly]
    exact ih h (place + 2)
  | case6 => cases h

/-- What stands behind pairs is folded onto their total. -/
theorem foldPairs_append {total value : Float} {index : Nat} {front : List Token}
    (h : foldPairs total index front = .ok value) (heven : front.length % 2 = 0)
    (more : List Token) :
    foldPairs total index (front ++ more) = foldPairs value (index + front.length) more := by
  fun_induction foldPairs total index front with
  | case1 total index =>
    obtain rfl := Except.ok.inj h
    rfl
  | case2 => cases h
  | case3 => simp at heven
  | case4 => cases h
  | case5 total index op next literal rest result happly ih =>
    have hrest : rest.length % 2 = 0 := by
      simp only [List.length_cons] at heven
      omega
    have hlength : index + (Token.operator op :: .number next literal :: rest).length =
        index + 2 + rest.length := by
      simp only [List.length_cons]
      omega
    rw [List.cons_append, List.cons_append, foldPairs, happly, hlength]
    exact ih h hrest
  | case6 => cases h

/-- Tokens that end with a number may be replaced by one number, their total. -/
theorem final_collapse {front more : List Token} {total value : Float} (literal : List Char)
    (hfront : final front = .ok total) (hodd : front.length % 2 = 1)
    (h : final (front ++ more) = .ok value) :
    final (.number total literal :: more) = .ok value := by
  match front with
  | .number first text :: rest =>
    have heven : rest.length % 2 = 0 := by
      simp only [List.length_cons] at hodd
      omega
    have hrest : foldPairs first 1 rest = .ok total := hfront
    have hmore : foldPairs first 1 (rest ++ more) = .ok value := h
    rw [foldPairs_append hrest heven] at hmore
    exact foldPairs_index hmore 1

end Evaluation

namespace Draft

/-- Whether two drafts differ in their first tokens only, which end with a number in the one draft
and are replaced by their total in the other. -/
inductive Collapses : Draft → Draft → Prop
  | intro {front : List Token} {total : Float} (literal : List Char) (more : List Token)
      (pending : List Char) : front.length % 2 = 1 → Evaluation.final front = .ok total →
        Collapses ⟨front ++ more, pending⟩ ⟨.number total literal :: more, pending⟩

/-- What the fragment holds is a matter of its text and its place. -/
theorem WellFormed.kind_eq {a b : Draft} (ha : a.WellFormed) (hb : b.WellFormed)
    (hpending : a.pending = b.pending) (hparity : a.tokens.length % 2 = b.tokens.length % 2)
    (hne : a.tokens ≠ []) : a.kind = b.kind := by
  obtain ⟨tokens, pending⟩ := a
  obtain ⟨tokens', pending'⟩ := b
  obtain rfl : pending = pending' := hpending
  cases ha.fragment with
  | blank hlength => exact absurd (List.length_eq_zero_iff.1 hlength) hne
  | numeral _ hlit =>
    have hnumber (ts : List Token) : kind ⟨ts, pending⟩ = .number :=
      Expression.kindOf_of_isLiteral ts hlit
    rw [hnumber, hnumber]
  | sign heven =>
    have hsign : kind ⟨tokens, ['-']⟩ = .sign := Expression.kindOf_minus ha.alternating heven
    rw [hsign]
    exact (Expression.kindOf_minus hb.alternating (hparity ▸ heven)).symm
  | operator hodd hs => rw [kind_of_symbol? ha hodd hs, kind_of_symbol? hb (hparity ▸ hodd) hs]

namespace Collapses
variable {a b : Draft} (h : Collapses a b)
include h

theorem pending_eq : a.pending = b.pending := by
  cases h
  rfl

theorem tokens_ne_nil : a.tokens ≠ [] ∧ b.tokens ≠ [] := by
  obtain ⟨literal, more, pending, hodd, -⟩ := h
  refine ⟨fun hnil => ?_, by simp⟩
  simp [(List.append_eq_nil_iff.1 hnil).1] at hodd

theorem extend (text : List Char) : Collapses (a.extend text) (b.extend text) := by
  obtain ⟨literal, more, pending, hodd, hfront⟩ := h
  exact .intro literal more (pending ++ text) hodd hfront

theorem replace (text : List Char) : Collapses (a.replace text) (b.replace text) := by
  obtain ⟨literal, more, pending, hodd, hfront⟩ := h
  exact .intro literal more text hodd hfront

theorem push (t : Token) (next : List Char) : Collapses (a.push t next) (b.push t next) := by
  obtain @⟨front, total, literal, more, pending, hodd, hfront⟩ := h
  have htokens : (front ++ more) ++ [t] = front ++ (more ++ [t]) := List.append_assoc _ _ _
  rw [Draft.push, Draft.push, htokens]
  exact .intro literal (more ++ [t]) next hodd hfront

/-- Tokens and their collapsed form have the same total. -/
theorem final_eq {total : Float} (htotal : Evaluation.final a.tokens = .ok total) :
    Evaluation.final b.tokens = .ok total := by
  obtain ⟨literal, more, pending, hodd, hfront⟩ := h
  exact Evaluation.final_collapse literal hfront hodd htotal

section
variable (ha : a.WellFormed) (hb : b.WellFormed)
include ha hb

theorem kind_eq : a.kind = b.kind := by
  refine ha.kind_eq hb h.pending_eq ?_ h.tokens_ne_nil.1
  obtain ⟨literal, more, pending, hodd, -⟩ := h
  simp only [List.length_append, List.length_cons]
  omega

theorem token_eq : a.token = b.token := by
  rw [token, token, h.kind_eq ha hb, h.pending_eq]

theorem pressNumber (key : Key) : Collapses (a.pressNumber key) (b.pressNumber key) := by
  cases key with
  | digit c => exact h.extend [c]
  | point =>
    simp only [Draft.pressNumber, ← h.pending_eq]
    split
    · exact h
    · exact h.extend ['.']
  | operator op =>
    simp only [Draft.pressNumber, ← h.token_eq ha hb]
    exact h.push a.token op.text
  | equals => exact h

theorem pressOperator (op : Operator) (key : Key) :
    Collapses (a.pressOperator op key) (b.pressOperator op key) := by
  have hpush (next : List Char) : Collapses (a.push a.token next) (b.push b.token next) := by
    rw [← h.token_eq ha hb]
    exact h.push a.token next
  cases key with
  | digit c => exact hpush [c]
  | point => exact hpush ['0', '.']
  | operator new =>
    by_cases hminus : new = .minus
    · subst hminus
      simp only [Draft.pressOperator]
      split
      · exact h.replace ['-']
      · exact hpush ['-']
    · simp only [Draft.pressOperator]
      exact h.replace new.text
  | equals => exact h

theorem press (key : Key) : Collapses (a.press key) (b.press key) := by
  rw [Draft.press, Draft.press, ← h.kind_eq ha hb]
  cases a.kind with
  | empty => exact h
  | number => exact h.pressNumber ha hb key
  | sign =>
    cases key with
    | digit c => exact h.extend [c]
    | point => exact h.extend ['0', '.']
    | operator _ | equals => exact h
  | operator op => exact h.pressOperator ha hb op key

theorem step (key : Key) : Collapses (a.step key) (b.step key) := by
  have hne := h.tokens_ne_nil
  rw [Draft.step, if_neg fun ht => hne.1 (ha.tokens_eq_nil_of_text ht), Draft.step,
    if_neg fun ht => hne.2 (hb.tokens_eq_nil_of_text ht)]
  exact h.press ha hb key

/-- What equals evaluates differs in the first tokens only. -/
theorem finished : Collapses ⟨a.finished, []⟩ ⟨b.finished, []⟩ := by
  simp only [Draft.finished, ← h.kind_eq ha hb, ← h.token_eq ha hb]
  cases a.kind with
  | empty | sign => exact h.replace []
  | number | operator _ => exact h.push a.token []

theorem subtotal_eq : a.expression.subtotal = b.expression.subtotal := by
  obtain ⟨total, htotal⟩ := Evaluation.exists_final ha.alternating
  have hcollapsed := h.final_eq htotal
  rw [Expression.subtotal_eq_number ha.alternating h.tokens_ne_nil.1 htotal,
    Expression.subtotal_eq_number hb.alternating h.tokens_ne_nil.2 hcollapsed]

/-- Equals shows the same total of both drafts. -/
theorem exists_step_equals :
    ∃ e, a.expression.step .equals = .ok e ∧ b.expression.step .equals = .ok e := by
  have hne := h.tokens_ne_nil
  obtain ⟨total, htotal⟩ := Evaluation.exists_final ha.alternating_finished
  have hcollapsed : Evaluation.final b.finished = .ok total := (h.finished ha hb).final_eq htotal
  exact ⟨_, ha.step_equals (fun ht => hne.1 (ha.tokens_eq_nil_of_text ht)) htotal,
    hb.step_equals (fun ht => hne.2 (hb.tokens_eq_nil_of_text ht)) hcollapsed⟩

end

end Collapses
end Draft

/-- The total of an expression whose fragment is a number. -/
def Expression.total (e : Expression) : Except CalcError Float :=
  match e.pendingValue? with
  | some value => Evaluation.final (e.tokens ++ [.number value e.pending])
  | none => .error .malformedFragment

theorem Expression.read?_of_total {text : List Char} {total : Float}
    (h : (ofResult text).total = .ok total) : Numeral.read? text = some total := by
  have hpending : (ofResult text).pendingValue? = Numeral.read? text := rfl
  rw [Expression.total, hpending] at h
  split at h
  · next value hread =>
    obtain rfl : value = total := Except.ok.inj h
    exact hread
  · cases h

/-- A numeral counts as the number it is read as. -/
theorem Draft.WellFormed.total_expression {d : Draft} (h : d.WellFormed) (hk : d.kind = .number) :
    d.expression.total = Evaluation.final d.finished := by
  obtain ⟨-, hlit⟩ := h.number_of_kind hk
  obtain ⟨value, hread⟩ := hlit.exists_read?
  have hpending : d.expression.pendingValue? = some value := hread
  simp only [Expression.total, hpending, finished, hk, token_of_isLiteral hlit hread]
  rfl

namespace Draft

theorem finished_of_number {d : Draft} (hk : d.kind = .number) :
    d.finished = d.tokens ++ [d.token] := by
  rw [finished, hk]

theorem WellFormed.odd_finished {d : Draft} (h : d.WellFormed) (hk : d.kind = .number) :
    d.finished.length % 2 = 1 := by
  have heven := (h.number_of_kind hk).1
  rw [finished_of_number hk, List.length_append, List.length_singleton]
  omega

/-- The numeral of a finite number is a draft of that number only. -/
theorem first_number {x : Float} (hfinite : x.isFinite = true) (hzero : x ≠ -0.0) :
    (first (Format.number x)).WellFormed ∧ (first (Format.number x)).kind = .number ∧
      (first (Format.number x)).finished = [.number x (Format.number x)] := by
  have hread : Numeral.read? (Format.number x) = some x := Numeral.read?_number hfinite hzero
  have hshown : IsShown (Format.number x) := isShown_of_isFinite (by simp [hread, hfinite])
  have hk : (first (Format.number x)).kind = .number := kind_of_isLiteral hshown.isLiteral
  refine ⟨Expression.wellFormed_first_of_isShown hshown, hk, ?_⟩
  rw [finished_of_number hk, token_of_isLiteral hshown.isLiteral hread]
  rfl

theorem WellFormed.push_of_number {d : Draft} (h : d.WellFormed) (hk : d.kind = .number)
    {op : Operator} (hlegal : (Key.operator op).Legal) : WellFormed ⟨d.finished, op.text⟩ ∧
      d.expression.press (.operator op) = .ok (expression ⟨d.finished, op.text⟩) := by
  have hpress : d.press (.operator op) = ⟨d.finished, op.text⟩ := by
    rw [Draft.press, hk, finished_of_number hk]
    rfl
  rw [← hpress]
  exact ⟨h.press_number hk hlegal fun _ => rfl, h.press_expression (by simp [hk]) hlegal (by simp)⟩

end Draft

namespace Session

/-- Whether two sessions are the same or show drafts that differ by a total in
place of its tokens. -/
inductive Collapses : Session → Session → Prop
  | same (s : Session) : Collapses s s
  | draft {a b : Draft} : a.WellFormed → b.WellFormed → a.Collapses b →
      Collapses (ofExpression a.expression) (ofExpression b.expression)

/-- A key that is no digit acts on a finite result as on a numeral. -/
theorem type_ofResult {x : Float}
    (hfinite : (Numeral.read? (Format.number x)).any Float.isFinite = true) {c : Char} {key : Key}
    (hkey : Key.ofChar c = .ok key) (hdigit : key.isDigit = false) {e : Expression}
    (hpress : (Draft.first (Format.number x)).expression.press key = .ok e) :
    (ofExpression (.ofResult (Format.number x))).type c = ofExpression e := by
  have hcarries := Expression.carriesOver_ofResult.2 ⟨hdigit, hfinite⟩
  have hstep := Expression.step_ofResult hcarries (isShown_of_isFinite hfinite)
  exact type_of_step hkey (hstep.trans hpress)

theorem type_equals_of_zero {d : Draft} (hd : d.WellFormed) (hz : d.text = ['0']) :
    (ofExpression d.expression).type '=' = ofExpression d.expression := by
  rw [hd.eq_of_text_eq_zero hz]
  rfl

/-- Where the total is finite, the numeral of a draft is shown, perhaps as a result, and a key that
is no digit acts on it. Only a single zero stays as it is. -/
theorem Proper.exists_draft {s : Session} (hs : s.Proper)
    (hkind : s.expression.fragmentKind = .number)
    {total : Float} (htotal : s.expression.total = .ok total) (hfinite : total.isFinite = true) :
    ∃ d : Draft, d.WellFormed ∧ d.kind = .number ∧ Evaluation.final d.finished = .ok total ∧
      (s = ofExpression d.expression ∧ d.text = ['0'] ∨
        ∀ {c key e}, Key.ofChar c = .ok key → key.isDigit = false → d.expression.press key = .ok e →
          s.type c = ofExpression e) := by
  obtain ⟨d, hd, rfl⟩ | ⟨x, rfl⟩ := hs.cases
  · refine ⟨d, hd, hkind, (hd.total_expression hkind).symm.trans htotal, ?_⟩
    by_cases hz : d.text = ['0']
    · exact .inl ⟨rfl, hz⟩
    · have hne : d.text ≠ [] := by
        intro hnil
        obtain rfl := hd.text_eq_nil_iff.1 hnil
        cases hkind
      refine .inr fun hkey _ hpress => type_of_step hkey ?_
      rw [Draft.step_expression_eq, if_neg (by simp [hz, hne]), hpress]
  · have hread : Numeral.read? (Format.number x) = some total := Expression.read?_of_total htotal
    have hany : (Numeral.read? (Format.number x)).any Float.isFinite = true := by
      simp [hread, hfinite]
    have hshown := isShown_of_isFinite hany
    have hd := Expression.wellFormed_first_of_isShown hshown
    have hk : (Draft.first (Format.number x)).kind = .number :=
      Draft.kind_of_isLiteral hshown.isLiteral
    exact ⟨_, hd, hk, (hd.total_expression hk).symm.trans htotal, .inr fun hkey hdigit hpress =>
      type_ofResult hany hkey hdigit hpress⟩

theorem total_ofResult {x : Float} (hfinite : x.isFinite = true) (hzero : x ≠ -0.0) :
    (Expression.ofResult (Format.number x)).total = .ok x := by
  have hpending : (Expression.ofResult (Format.number x)).pendingValue? = some x :=
    Numeral.read?_number hfinite hzero
  simp only [Expression.total, hpending]
  rfl

section
variable {s : Session} (hs : s.Proper) (hkind : s.expression.fragmentKind = .number) {total : Float}
  (htotal : s.expression.total = .ok total) (hfinite : total.isFinite = true)
include hs hkind htotal hfinite

/-- Equals shows the total, but for a single zero that stays as it is. -/
theorem Proper.type_equals :
    s.type '=' = s ∨ s.type '=' = ofExpression (.ofResult (Format.number total)) := by
  obtain ⟨d, hd, -, hfinal, ⟨rfl, hz⟩ | htype⟩ := hs.exists_draft hkind htotal hfinite
  · exact .inl (type_equals_of_zero hd hz)
  · exact .inr (htype rfl rfl (hd.pressEquals_expression hfinal))

theorem Proper.type_equals_of_evaluated (hevaluated : s.expression.evaluated = true) :
    s.type '=' = s := by
  obtain hsame | hresult := hs.type_equals hkind htotal hfinite
  · exact hsame
  · obtain ⟨d, -, rfl⟩ | ⟨x, rfl⟩ := hs.cases
    · cases hevaluated
    · rw [hresult, Format.number_eq_of_read? (Expression.read?_of_total htotal)]

variable (hzero : total ≠ -0.0)
include hzero

theorem Proper.type_equals_equals : (s.type '=').type '=' = s.type '=' := by
  obtain hsame | hresult := hs.type_equals hkind htotal hfinite
  · rw [hsame, hsame]
  · have hproper := hs.type '='
    rw [hresult] at hproper ⊢
    exact hproper.type_equals_of_evaluated (Expression.fragmentKind_ofResult total)
      (total_ofResult hfinite hzero) hfinite rfl

theorem Proper.typeAll_replicate_equals {m : Nat} (hm : 0 < m) :
    s.typeAll (List.replicate m '=') = s.type '=' := by
  induction m, hm using Nat.le_induction with
  | base => rfl
  | succ m hm ih =>
    rw [List.replicate_succ', typeAll_append, ih]
    exact hs.type_equals_equals hkind htotal hfinite hzero

/-- An operator after equals leads to the total in place of the tokens that it would have led to. -/
theorem Proper.collapses_type {c : Char} {op : Operator} (hc : Operator.ofSymbol? c = some op) :
    Collapses (s.type c) ((s.type '=').type c) := by
  have hkey : Key.ofChar c = .ok (.operator op) := Key.ofChar_of_ofSymbol? hc
  have hlegal := Key.legal_of_ofChar hkey
  obtain ⟨d, hd, hk, hfinal, ⟨rfl, hz⟩ | htype⟩ := hs.exists_draft hkind htotal hfinite
  · rw [type_equals_of_zero hd hz]
    exact .same _
  · have hany : (Numeral.read? (Format.number total)).any Float.isFinite = true := by
      simp [Numeral.read?_number hfinite hzero, hfinite]
    obtain ⟨hfirst, hfirst_kind, hfirst_finished⟩ := Draft.first_number hfinite hzero
    obtain ⟨hplain, hplain_press⟩ := hd.push_of_number hk hlegal
    obtain ⟨hchained, hchained_press⟩ := hfirst.push_of_number hfirst_kind hlegal
    have hcollapses := Draft.Collapses.intro (Format.number total) [] op.text
      (hd.odd_finished hk) hfinal
    rw [List.append_nil, ← hfirst_finished] at hcollapses
    have hresult : s.type '=' = ofExpression (.ofResult (Format.number total)) :=
      htype rfl rfl (hd.pressEquals_expression hfinal)
    rw [hresult, htype hkey rfl hplain_press, type_ofResult hany hkey rfl hchained_press]
    exact .draft hplain hchained hcollapses

end

namespace Collapses
variable {s t : Session} (h : Collapses s t)
include h

/-- A key does the same to both sessions. Equals leaves no difference. -/
theorem type (c : Char) :
    Collapses (s.type c) (t.type c) ∧ (c = '=' → s.type c = t.type c) := by
  cases h with
  | same s => exact ⟨.same _, fun _ => rfl⟩
  | @draft a b ha hb hab =>
    cases hkey : Key.ofChar c with
    | error error =>
      simp only [Session.type, Session.ingest, hkey]
      refine ⟨.draft ha hb hab, ?_⟩
      rintro rfl
      cases hkey
    | ok key =>
      by_cases he : key = .equals
      · subst he
        obtain ⟨e, ha_step, hb_step⟩ := hab.exists_step_equals ha hb
        rw [type_of_step hkey ha_step, type_of_step hkey hb_step]
        exact ⟨.same _, fun _ => rfl⟩
      · have hlegal := Key.legal_of_ofChar hkey
        have ha_step := ha.step_expression hlegal fun hequals => absurd hequals he
        have hb_step := hb.step_expression hlegal fun hequals => absurd hequals he
        rw [type_of_step hkey ha_step, type_of_step hkey hb_step]
        refine ⟨.draft (ha.step hlegal) (hb.step hlegal) (hab.step ha hb key), ?_⟩
        rintro rfl
        exact absurd (Except.ok.inj hkey).symm he

/-- Any number of keys does the same to both sessions. One equals among
them leaves no difference. -/
theorem typeAll (keys : List Char) :
    Collapses (s.typeAll keys) (t.typeAll keys) ∧
      ('=' ∈ keys → s.typeAll keys = t.typeAll keys) := by
  induction keys generalizing s t with
  | nil => exact ⟨h, fun hmem => absurd hmem List.not_mem_nil⟩
  | cons c rest ih =>
    obtain ⟨hnext, hequals⟩ := h.type c
    obtain ⟨hrest, hmem⟩ := ih hnext
    refine ⟨hrest, fun hcons => ?_⟩
    obtain rfl | htail := List.mem_cons.1 hcons
    · exact congrArg (Session.typeAll · rest) (hequals rfl)
    · exact hmem htail

end Collapses

/-- Whether the same is being typed behind the same subtotal. -/
structure SameEntry (s t : Session) : Prop where
  pending : s.expression.pending = t.expression.pending
  evaluated : s.expression.evaluated = t.expression.evaluated
  subtotal : s.subtotal = t.subtotal

theorem Collapses.sameEntry {s t : Session} (h : Collapses s t) : SameEntry s t := by
  cases h with
  | same s => exact ⟨rfl, rfl, rfl⟩
  | draft ha hb hab => exact ⟨hab.pending_eq, rfl, hab.subtotal_eq ha hb⟩

/-- Where the total is finite and not negative zero, equals may be pressed any number of times in
front of an operator: what is typed afterwards is the same as without it, behind the same subtotal,
and the next equals leads to the same session. -/
theorem sameEntry_typeAll_equals {s : Session} {commands : List Command}
    (hrun : fresh.run commands = s) (hkind : s.expression.fragmentKind = .number) {total : Float}
    (htotal : s.expression.total = .ok total) (hfinite : total.isFinite = true)
    (hzero : total ≠ -0.0)
    {m : Nat} (hm : 0 < m) {c : Char} {op : Operator} (hc : Operator.ofSymbol? c = some op) :
    s.typeAll (List.replicate m '=') = s.type '=' ∧
      (s.expression.evaluated = true → s.type '=' = s) ∧
        ∀ keys, SameEntry (s.typeAll (c :: keys)) (s.typeAll (List.replicate m '=' ++ c :: keys)) ∧
          ('=' ∈ keys → s.typeAll (c :: keys) = s.typeAll (List.replicate m '=' ++ c :: keys)) := by
  have hs : s.Proper := hrun ▸ proper_fresh.run commands
  have hrepeated := hs.typeAll_replicate_equals hkind htotal hfinite hzero hm
  refine ⟨hrepeated, hs.type_equals_of_evaluated hkind htotal hfinite, fun keys => ?_⟩
  have hchained : s.typeAll (List.replicate m '=' ++ c :: keys) =
      ((s.type '=').type c).typeAll keys := by
    rw [typeAll_append, hrepeated]
    rfl
  obtain ⟨hcollapses, hequals⟩ :=
    (hs.collapses_type hkind htotal hfinite hzero hc).typeAll keys
  rw [hchained]
  exact ⟨hcollapses.sameEntry, hequals⟩

/-- A sum that is no short decimal is carried over without a loss. -/
theorem sameEntry_typeAll_equals_tenths :
    let s := fresh.run [.keys "0.1+0.2".toList]
    s.expression.fragmentKind = .number ∧ s.expression.total = .ok 0.30000000000000004 ∧
      Float.isFinite 0.30000000000000004 = true ∧ (0.30000000000000004 : Float) ≠ -0.0 ∧
        s.typeAll "===".toList = s.type '=' ∧ (s.expression.evaluated = true → s.type '=' = s) ∧
          ∀ keys, SameEntry (s.typeAll ('*' :: keys)) (s.typeAll ("===".toList ++ '*' :: keys)) ∧
            ('=' ∈ keys → s.typeAll ('*' :: keys) = s.typeAll ("===".toList ++ '*' :: keys)) := by
  intro s
  have hkind : s.expression.fragmentKind = .number := by decide +kernel
  have htotal : s.expression.total = .ok 0.30000000000000004 := by decide +kernel
  have hfinite : Float.isFinite 0.30000000000000004 = true := by decide +kernel
  have hzero : (0.30000000000000004 : Float) ≠ -0.0 := by decide +kernel
  have hthree : 0 < 3 := by decide
  have htimes : Operator.ofSymbol? '*' = some .times := rfl
  exact ⟨hkind, htotal, hfinite, hzero,
    sameEntry_typeAll_equals rfl hkind htotal hfinite hzero hthree htimes⟩

end Session
end PocketCalc
