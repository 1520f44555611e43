import BookCensus.Proofs.SelectorPadding

/-!
# The argument of `:hasText` is opaque

What stands in the parentheses behind `:hasText` is no selector.  It may have brackets that
close nothing, quotes, line ends, the marker `:has` and parentheses of its own, and it may be
empty; only a second `:hasText` is refused, in it as anywhere else.

So of a selector with `:hasText` the base is read on its own, and whatever is wrong with it is
found first.  Only then is the argument taken for a piece of text, which it always is, or for
a pattern, which may fail; and the filter that it makes takes elements out of the matches of
the base without moving any (`Plan.parse_hasTextSelector`).

The main statement is `hasText_argument_opaque`.
-/

namespace BookCensus

open Text Document

/-- A selector with the operator `:hasText`, as it is written. -/
def hasTextSelector (base argument : String) : String :=
  base ++ ":hasText(" ++ argument ++ ")"

/-- It is written as operators are. -/
theorem hasTextSelector_eq_written (base argument : String) :
    hasTextSelector base argument = Marker.hasText.written base argument "" := by
  rw [Marker.written_empty]
  rfl

/-- The marker stands in it, so the check lets it through. -/
theorem validateSelector_hasTextSelector [Css.Wording] (base argument : String) :
    validateSelector (hasTextSelector base argument) = ⟨true, "OK"⟩ := by
  have hmarker : ":hasText".toList <:+: (hasTextSelector base argument).toList := by
    have hopen : ":hasText(".toList = ":hasText".toList ++ "(".toList := rfl
    refine ⟨base.toList, "(".toList ++ argument.toList ++ ")".toList, ?_⟩
    simp only [hasTextSelector, String.toList_append, hopen, List.append_assoc]
  rw [validateSelector, checkSelector_of_hasText hmarker]

section Opaque

variable {base argument : String}

/-- Without a second marker it is cut into base and argument, whatever these are. -/
theorem Hybrid.parse_hasTextSelector (hbase : ¬ ":hasText".toList <:+: base.toList)
    (hargument : ¬ ":hasText".toList <:+: argument.toList) :
    Hybrid.parse (hasTextSelector base argument) = .ok ⟨base, .hasText argument⟩ := by
  have hbase' := (Marker.hasText.count_eq_zero_iff base).mpr hbase
  have hargument' := (Marker.hasText.count_eq_zero_iff argument).mpr hargument
  rw [hasTextSelector_eq_written,
    Hybrid.parse_written _ (Marker.hasText_leads_written base argument),
    if_pos ⟨hbase', hargument'⟩]
  rfl

/-- **The base first, then the argument.**  A plan is made of what the base is read as and of
the test that the argument stands for; the base fails as it does alone. -/
theorem Plan.parse_hasTextSelector [Css.Wording] (hbase : ¬ ":hasText".toList <:+: base.toList)
    (hargument : ¬ ":hasText".toList <:+: argument.toList) (mode : TextMatch) :
    Plan.parse (hasTextSelector base argument) mode =
      match Structural.compile base with
      | .error e => .error e
      | .ok read => (TextTest.compile argument mode).map fun test =>
          ⟨⟨base, .hasText argument⟩, read, .hasText test⟩ := by
  have hparse : Plan.parse (hasTextSelector base argument) mode
      = Plan.compile ⟨base, .hasText argument⟩ mode := by
    rw [Plan.parse, Hybrid.parse_hasTextSelector hbase hargument]
    rfl
  rw [hparse]
  cases hread : Structural.compile base with
  | error e => exact Plan.compile_of_error (h := ⟨base, .hasText argument⟩) hread
  | ok read =>
      rw [Plan.compile_of_ok (h := ⟨base, .hasText argument⟩) hread, Plan.filterOf]
      cases TextTest.compile argument mode <;> rfl

/-- A base without any marker is a selector by itself when it can be read. -/
theorem Plan.parse_of_compile [Css.Wording] (hbase : ¬ ":has".toList <:+: base.toList)
    {read : Structural} (hread : Structural.compile base = .ok read) (mode : TextMatch) :
    Plan.parse base mode = .ok ⟨⟨base, .none⟩, read, .all⟩ := by
  have hne : base ≠ "" := by
    rintro rfl
    cases hread
  rw [Plan.parse, Hybrid.parse_plain hne ((Marker.has.count_eq_zero_iff base).mpr hbase)]
  exact Plan.compile_of_ok (h := ⟨base, .none⟩) hread

end Opaque

/-- A filter takes elements out of the matches of the base and moves none. -/
theorem Plan.matchSet_sublist_all (plan : Plan) (selector : Hybrid) (page : Place) :
    (plan.matchSet page).Sublist (Plan.matchSet ⟨selector, plan.base, .all⟩ page) := by
  have hall : Plan.matchSet ⟨selector, plan.base, .all⟩ page = plan.base.list.below page :=
    List.filter_eq_self.mpr fun _ _ => rfl
  rw [hall]
  exact List.filter_sublist

/-- **Opaque arguments.**  Take a base and two arguments without the marker `:hasText`.  The
check lets the selector made of them through.  With the argument as a piece of text it is
accepted exactly when the base can be read, as the same base for either argument, and refused
for the same reason otherwise.  With the argument as a pattern it is refused as before when the
base cannot be read; when it can, it is refused exactly when the argument is no pattern, which
is then named, and accepted otherwise.  And if the base has no `:has` in it, so that it is a
selector by itself, the elements matched below any other are some of those that the base alone
matches there, in the same order. -/
theorem hasText_argument_opaque [Css.Wording] {base p q : String}
    (hbase : ¬ ":hasText".toList <:+: base.toList)
    (hp : ¬ ":hasText".toList <:+: p.toList) (hq : ¬ ":hasText".toList <:+: q.toList) :
    validateSelector (hasTextSelector base p) = ⟨true, "OK"⟩ ∧
    ((∃ plan, Plan.parse (hasTextSelector base p) .substring = .ok plan) ↔
      ∃ read, Structural.compile base = .ok read) ∧
    (∀ plan, Plan.parse (hasTextSelector base p) .substring = .ok plan →
      ∃ plan', Plan.parse (hasTextSelector base q) .substring = .ok plan' ∧
        plan'.base = plan.base) ∧
    (∀ e, Plan.parse (hasTextSelector base p) .substring = .error e ↔
      Plan.parse (hasTextSelector base q) .substring = .error e) ∧
    (∀ e, Structural.compile base = .error e →
      e = .malformed base (Css.Wording.complaint (trimBlank base.toList)) ∧
        Plan.parse (hasTextSelector base p) .substring = .error e ∧
        Plan.parse (hasTextSelector base p) .pattern = .error e) ∧
    (∀ read, Structural.compile base = .ok read →
      (∀ e, Plan.parse (hasTextSelector base p) .pattern = .error e ↔
        ∃ cause, Pattern.compile p = .error cause ∧ e = .invalidPattern p cause) ∧
      ((∃ plan, Plan.parse (hasTextSelector base p) .pattern = .ok plan) ↔
        ∃ pattern, Pattern.compile p = .ok pattern)) ∧
    (¬ ":has".toList <:+: base.toList → ∀ mode plan,
      Plan.parse (hasTextSelector base p) mode = .ok plan →
      ∃ alone, Plan.parse base mode = .ok alone ∧
        ∀ page, (plan.matchSet page).Sublist (alone.matchSet page)) := by
  have hparse := Plan.parse_hasTextSelector hbase hp
  have hparse' := Plan.parse_hasTextSelector hbase hq
  refine ⟨validateSelector_hasTextSelector base p, ?_⟩
  cases hread : Structural.compile base with
  | error e =>
      simp only [hread] at hparse hparse'
      have he := (Structural.compile_eq_error_iff.mp hread).2
      simp [hparse, hparse', he]
  | ok read =>
      simp only [hread] at hparse hparse'
      have hpiece : Plan.parse (hasTextSelector base p) .substring =
          .ok ⟨⟨base, .hasText p⟩, read, .hasText (.substring (collapse p))⟩ := hparse .substring
      have hpiece' : Plan.parse (hasTextSelector base q) .substring =
          .ok ⟨⟨base, .hasText q⟩, read, .hasText (.substring (collapse q))⟩ := hparse' .substring
      refine ⟨⟨fun _ => ⟨read, rfl⟩, fun _ => ⟨_, hpiece⟩⟩, ?_, ?_, nofun, ?_, ?_⟩
      · intro plan h
        rw [hpiece] at h
        obtain rfl := Except.ok.inj h
        exact ⟨_, hpiece', rfl⟩
      · intro e
        rw [hpiece, hpiece']
        exact ⟨nofun, nofun⟩
      · intro _ _
        rw [hparse .pattern, TextTest.compile]
        cases Pattern.compile p with
        | error cause => simp [Except.map, eq_comm]
        | ok pattern => simp [Except.map]
      · intro hhas mode plan h
        refine ⟨_, Plan.parse_of_compile hhas hread mode, fun page => ?_⟩
        rw [hparse mode] at h
        cases htest : TextTest.compile p mode with
        | error e =>
            rw [htest] at h
            cases h
        | ok test =>
            rw [htest] at h
            obtain rfl := Except.ok.inj h
            exact Plan.matchSet_sublist_all _ _ page

/-- An argument with parentheses that open nothing, beside one with a selector in it. -/
theorem hasText_argument_opaque_brackets :
    ¬ ":hasText".toList <:+: ".howto".toList ∧ ¬ ":hasText".toList <:+: "((".toList ∧
      ¬ ":hasText".toList <:+: "a:has(b".toList ∧
      validateSelector (hasTextSelector ".howto" "((") = ⟨true, "OK"⟩ ∧
      (∃ plan plan', Plan.parse (hasTextSelector ".howto" "((") .substring = .ok plan ∧
        Plan.parse (hasTextSelector ".howto" "a:has(b") .substring = .ok plan' ∧
        plan'.base = plan.base ∧
        ∃ alone, Plan.parse ".howto" .substring = .ok alone ∧
          ∀ page, (plan.matchSet page).Sublist (alone.matchSet page)) ∧
      ∃ cause, Plan.parse (hasTextSelector ".howto" "((") .pattern =
        .error (.invalidPattern "((" cause) := by
  have hbase : ¬ ":hasText".toList <:+: ".howto".toList := by decide
  have hp : ¬ ":hasText".toList <:+: "((".toList := by decide
  have hq : ¬ ":hasText".toList <:+: "a:has(b".toList := by decide
  have hread : ∃ read, Structural.compile ".howto" = .ok read := ⟨_, rfl⟩
  have hrefused : ∃ cause, Pattern.compile "((" = .error cause := ⟨_, rfl⟩
  obtain ⟨hcheck, haccepted, hsame, -, -, hpattern, hsublist⟩ :=
    hasText_argument_opaque hbase hp hq
  obtain ⟨plan, hplan⟩ := haccepted.mpr hread
  obtain ⟨plan', hplan', hbases⟩ := hsame plan hplan
  obtain ⟨read, hread⟩ := hread
  obtain ⟨cause, hcause⟩ := hrefused
  exact ⟨hbase, hp, hq, hcheck,
    ⟨plan, plan', hplan, hplan', hbases, hsublist (by decide) .substring plan hplan⟩,
    cause, ((hpattern read hread).1 _).mpr ⟨cause, hcause, rfl⟩⟩

end BookCensus
