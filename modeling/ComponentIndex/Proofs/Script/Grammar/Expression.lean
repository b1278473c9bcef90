/-
**Expressions stay within their source.**

Main results:

* `ComponentIndex.Script.Grammar.staysWithin_primary`,
  `ComponentIndex.Script.Grammar.staysWithin_suffixes`,
  `ComponentIndex.Script.Grammar.staysWithin_unary`,
  `ComponentIndex.Script.Grammar.staysWithin_binaryRest` — operands and operators;
* `ComponentIndex.Script.Grammar.staysWithin_operand`,
  `ComponentIndex.Script.Grammar.staysWithin_expression` — expressions without and with commas.
-/

import ComponentIndex.Proofs.Script.Grammar.Function
import ComponentIndex.Proofs.Script.Grammar.Markup
import ComponentIndex.Script.Grammar.Expression

set_option relaxedAutoImplicit false
set_option autoImplicit false

namespace ComponentIndex.Script.Grammar

open Located Rule

variable {size : Nat} {g : Grammar} {m start : Mark} {before link : List Node} {base : Node}

/-! ### Regular expressions and templates -/

theorem liesWithin_regexBodyEnd? (h : m.IsWithin size) : LiesWithin size (regexBodyEnd? m) := by
  obtain ⟨rest, offset⟩ := m
  rw [regexBodyEnd?]
  dsimp only
  fun_induction regexBodyEnd?.go false rest offset with
  | case1 => exact liesWithin_none
  | case2 => exact liesWithin_none
  | case3 => exact liesWithin_none
  | case4 => exact liesWithin_none
  | case5 _ _ _ _ _ _ _ _ ih => exact ih h.tail.tail
  | case6 _ _ _ _ _ _ _ ih => exact ih h.tail
  | case7 _ _ _ _ _ _ _ _ ih => exact ih h.tail
  | case8 => exact liesWithin_some.2 h.tail
  | case9 _ _ _ _ _ _ _ _ _ ih => exact ih h.tail

theorem staysWithin_regexLiteral : regexLiteral.StaysWithin size := by
  refine .bind staysWithin_here fun m hm => ?_
  have hclose := liesWithin_regexBodyEnd? hm.next
  dsimp only
  split
  next close heq =>
    exact .bind (staysWithin_resume ((hclose close heq).skipWhile _)) fun _ _ =>
      .pure (liesWithin_childless hm _)
  · exact .failure

theorem staysWithin_templateParts (hg : g.StaysWithin size) (fuel : Nat) (h : m.IsWithin size) :
    (templateParts g fuel m).StaysWithin size := by
  induction fuel generalizing m with
  | zero => exact .failure
  | succ fuel ih =>
      have hm := h.skipGlyphs fun c => !(c.is '\x60' || c.is '\\' || c.is '$')
      refine .ite ?_ (.ite ?_ (.ite (.ite ?_ ?_) .failure))
      · exact .bind (staysWithin_resume hm.next) fun _ _ => .pure liesWithin_nil
      · exact .ite .failure_bind (ih (hm.skip 2))
      · refine .bind (staysWithin_resume (hm.skip 2)) fun _ _ => ?_
        refine .bind ((hg _).child.append staysWithin_comments) fun _ hinner => ?_
        refine .bind staysWithin_ahead fun close hclose => .ite .failure_bind ?_
        refine .bind (ih hclose.stop) fun _ hrest => .pure (liesWithin_cons.2
          ⟨liesWithin_nodeBetween hm ?_ _, hrest⟩)
        simp only [liesWithin_append, liesWithin_cons]
        exact ⟨⟨⟨liesWithin_childless hm _, liesWithin_nil⟩, hinner⟩,
          liesWithin_childless hclose.start _, liesWithin_nil⟩
      · exact ih hm.next

theorem staysWithin_templateLiteral (hg : g.StaysWithin size) :
    (templateLiteral g).StaysWithin size :=
  .bind staysWithin_here fun _ hm => .ite .failure_bind <| .bind .get fun _ _ =>
    .bind (staysWithin_templateParts hg _ hm.next) fun _ hparts => staysWithin_finish hm hparts

/-! ### Arrow functions -/

theorem staysWithin_arrowFrom (hg : g.StaysWithin size) (hstart : start.IsWithin size)
    (hbefore : LiesWithin size before) : (arrowFrom g start before).StaysWithin size := by
  refine .bind staysWithin_mark fun _ harrow => ?_
  refine .bind (.child ?_) fun _ hbody =>
    staysWithin_finish hstart (liesWithin_append.2 ⟨liesWithin_append.2 ⟨hbefore, harrow⟩, hbody⟩)
  exact .bind staysWithin_seesMark fun _ _ =>
    .ite (.orElse (staysWithin_block hg) (hg _)) (hg _)

theorem staysWithin_parenthesizedItem (hg : g.StaysWithin size) :
    (parenthesizedItem g).StaysWithin size :=
  .bind staysWithin_seesMark fun _ _ => .ite (staysWithin_spreadElement hg) (hg _)

theorem liesWithin_sequenceOf {stop : Mark} {items : List Node} (hstart : start.IsWithin size)
    (hitems : LiesWithin size items) : LiesWithin size (sequenceOf start stop items) := by
  rw [sequenceOf]
  split
  · exact liesWithin_singleton.2 (liesWithin_nodeBetween hstart hitems _)
  · exact hitems

theorem staysWithin_parenthesized (hg : g.StaysWithin size) :
    (parenthesized g).StaysWithin size := by
  refine .bind staysWithin_here fun _ hstart => ?_
  refine .bind (staysWithin_mark.append staysWithin_comments) fun _ hopening => ?_
  refine .bind staysWithin_here fun _ hinner => ?_
  refine .bind ((staysWithin_parenthesizedItem hg).child.listUntil _ _) fun _ hitems => ?_
  refine .bind staysWithin_behind fun _ _ => .bind staysWithin_mark fun _ hclosing => ?_
  refine .bind staysWithin_seesMark fun _ _ => .ite ?_ (.ite ?_ .failure)
  · refine .bind (staysWithin_finish hstart (liesWithin_append.2
      ⟨liesWithin_append.2 ⟨hopening, Node.liesWithin_toPatterns hitems⟩, hclosing⟩))
      fun _ hparameters => ?_
    exact staysWithin_arrowFrom hg hstart (liesWithin_singleton.2 hparameters)
  · exact staysWithin_finish hstart (liesWithin_append.2
      ⟨liesWithin_append.2 ⟨hopening, liesWithin_sequenceOf hinner hitems⟩, hclosing⟩)

theorem staysWithin_nameOrArrow (hg : g.StaysWithin size) : (nameOrArrow g).StaysWithin size :=
  .bind staysWithin_here fun _ hstart => .bind staysWithin_identifier fun _ hname =>
    .bind staysWithin_seesMark fun _ _ => .ite
      (staysWithin_arrowFrom hg hstart (liesWithin_singleton.2 hname))
      (.ite (.pure (hname.withKind _)) (.pure hname))

theorem staysWithin_asyncArrow (hg : g.StaysWithin size) : (asyncArrow g).StaysWithin size := by
  refine .bind staysWithin_here fun _ hstart => .bind staysWithin_word fun _ hkeyword => ?_
  refine .bind staysWithin_ahead fun _ _ => .ite ?_ ?_
  · exact .bind staysWithin_identifier.child fun _ hname =>
      staysWithin_arrowFrom hg hstart (liesWithin_append.2 ⟨hkeyword, hname⟩)
  · exact .bind (staysWithin_formalParameters hg).child fun _ hparameters =>
      staysWithin_arrowFrom hg hstart (liesWithin_append.2 ⟨hkeyword, hparameters⟩)

theorem staysWithin_asyncPrimary (hg : g.StaysWithin size) :
    (asyncPrimary g).StaysWithin size := by
  refine .bind staysWithin_here fun _ hstart => .bind .get fun _ hplace => ?_
  refine .bind staysWithin_word fun _ hkeyword => .bind staysWithin_ahead fun _ _ => ?_
  refine .ite (staysWithin_functionFrom hg _ hstart hkeyword) (.bind (.set hplace) fun _ _ => ?_)
  exact .ite (.orElse (staysWithin_asyncArrow hg) (staysWithin_nameOrArrow hg))
    (staysWithin_nameOrArrow hg)

/-! ### Primary expressions -/

theorem staysWithin_arrayLiteral (hg : g.StaysWithin size) :
    (arrayLiteral g).StaysWithin size :=
  (staysWithin_parenthesizedItem hg).bracketed _ _ _ _

theorem staysWithin_importPrimary : importPrimary.StaysWithin size := by
  refine .bind staysWithin_here fun m hstart => .bind staysWithin_leaf fun _ hkeyword => ?_
  have halone : (finish .importKeyword m []).StaysWithin size :=
    staysWithin_finish hstart liesWithin_nil
  refine .bind staysWithin_seesMark fun _ _ => .ite ?_ halone
  refine .bind .get fun _ hplace => .bind staysWithin_mark fun _ hdot => ?_
  refine .bind staysWithin_seesWord fun _ _ => .ite ?_ (.bind (.set hplace) fun _ _ => halone)
  exact .bind staysWithin_anyToken fun _ hname => staysWithin_finish hstart
    (liesWithin_append.2 ⟨liesWithin_append.2 ⟨hkeyword, hdot⟩, hname⟩)

theorem staysWithin_wordPrimary (hg : g.StaysWithin size) : (wordPrimary g).StaysWithin size := by
  refine .bind staysWithin_ahead fun _ _ => ?_
  split
  · exact staysWithin_single
  · exact .bind staysWithin_here fun _ hstart => .ite
      (staysWithin_functionFrom hg _ hstart liesWithin_nil) <| .ite
      (staysWithin_asyncPrimary hg) <| .ite
      (staysWithin_classFrom hg _ hstart liesWithin_nil) <| .ite
      staysWithin_importPrimary (staysWithin_nameOrArrow hg)

theorem staysWithin_primary (hg : g.StaysWithin size) : (primary g).StaysWithin size := by
  refine .bind staysWithin_ahead fun t _ => ?_
  split
  · exact staysWithin_wordPrimary hg
  · exact staysWithin_single
  · exact staysWithin_stringLiteral
  · exact staysWithin_single
  · refine .ite (staysWithin_parenthesized hg) <| .ite (staysWithin_arrayLiteral hg) <| .ite
      (staysWithin_objectLiteral hg) <| .ite (staysWithin_templateLiteral hg) <| .ite
      staysWithin_regexLiteral <| .ite (hg _) <| .ite ?_ .failure
    exact .bind staysWithin_here fun _ hstart => .bind (staysWithin_decorators hg)
      fun _ hdecorated => staysWithin_classFrom hg _ hstart hdecorated
  · exact .failure

/-! ### Member accesses and calls -/

theorem staysWithin_callArguments (hg : g.StaysWithin size) :
    (callArguments g).StaysWithin size :=
  (staysWithin_parenthesizedItem hg).bracketed _ _ _ _

theorem staysWithin_memberName : memberName.StaysWithin size := by
  refine .bind staysWithin_ahead fun _ _ => ?_
  split
  · exact staysWithin_single
  · exact staysWithin_single
  · exact .failure

theorem staysWithin_subscriptOf (hg : g.StaysWithin size) (hstart : start.IsWithin size)
    (hbase : base.StartsWithin size) (hlink : LiesWithin size link) :
    (subscriptOf g start base link).StaysWithin size :=
  .bind ((staysWithin_mark.append (hg _).child).append staysWithin_mark) fun _ hrest =>
    staysWithin_finish hstart
      (liesWithin_cons.2 ⟨hbase.withRole _, liesWithin_append.2 ⟨hlink, hrest⟩⟩)

theorem staysWithin_callOf (hg : g.StaysWithin size) (hstart : start.IsWithin size)
    (hbase : base.StartsWithin size) (hlink : LiesWithin size link) :
    (callOf g start base link).StaysWithin size :=
  .bind ((staysWithin_callArguments hg).childAs _) fun _ hargs =>
    staysWithin_finish hstart
      (liesWithin_cons.2 ⟨hbase.withRole _, liesWithin_append.2 ⟨hlink, hargs⟩⟩)

theorem staysWithin_suffixes (hg : g.StaysWithin size) (calls : Bool)
    (hstart : start.IsWithin size) (fuel : Nat) (hbase : base.StartsWithin size) :
    (suffixes g calls start fuel base).StaysWithin size := by
  induction fuel generalizing base with
  | zero => exact .failure
  | succ fuel ih =>
      refine .bind staysWithin_ahead fun _ _ => .ite ?dot (.ite ?optional
        (.ite ?subscript (.ite ?call (.ite ?template (.pure hbase)))))
      case dot =>
        exact .bind (staysWithin_mark.append (staysWithin_memberName.childAs _)) fun _ hrest =>
          .bind (staysWithin_finish hstart (liesWithin_cons.2 ⟨hbase.withRole _, hrest⟩))
            fun _ hnext => ih hnext
      case optional =>
        refine .bind staysWithin_leaf fun _ hlink => ?_
        refine .bind staysWithin_seesMark fun _ _ => .ite
          (.bind (staysWithin_callOf hg hstart hbase hlink) ?next)
          (.bind staysWithin_seesMark fun _ _ => .ite
            (.bind (staysWithin_subscriptOf hg hstart hbase hlink) ?next)
            (.bind (staysWithin_memberName.childAs _) fun _ hproperty => .bind
              (staysWithin_finish hstart (liesWithin_cons.2
                ⟨hbase.withRole _, liesWithin_append.2 ⟨hlink, hproperty⟩⟩)) ?next))
        exact fun _ hnext => ih hnext
      case subscript =>
        exact .bind staysWithin_comments fun _ hlink =>
          .bind (staysWithin_subscriptOf hg hstart hbase hlink) fun _ hnext => ih hnext
      case call =>
        exact .bind staysWithin_comments fun _ hlink =>
          .bind (staysWithin_callOf hg hstart hbase hlink) fun _ hnext => ih hnext
      case template =>
        exact .bind ((staysWithin_templateLiteral hg).childAs _) fun _ htemplate =>
          .bind (staysWithin_finish hstart (liesWithin_cons.2 ⟨hbase.withRole _, htemplate⟩))
            fun _ hnext => ih hnext

theorem staysWithin_construction (hg : g.StaysWithin size) :
    (construction g).StaysWithin size := by
  refine .bind staysWithin_here fun _ hstart => .bind staysWithin_word fun _ hkeyword => ?_
  refine .bind staysWithin_seesMark fun _ _ => .ite ?_ ?_
  · exact .bind (staysWithin_mark.append staysWithin_word) fun _ hrest =>
      staysWithin_finish hstart (liesWithin_append.2 ⟨hkeyword, hrest⟩)
  refine .bind (.childAs ?_ _) fun _ hcallee => ?_
  · exact .bind staysWithin_here fun _ hinner => .bind staysWithin_seesWord fun _ _ => .ite
      (.bind (hg _) fun _ hbase => staysWithin_suffixes hg _ hinner _ hbase)
      (.bind (staysWithin_primary hg) fun _ hbase => staysWithin_suffixes hg _ hinner _ hbase)
  · refine .bind staysWithin_seesMark fun _ _ => .ite
      (.bind ((staysWithin_callArguments hg).childAs _) ?args) (.bind (.pure liesWithin_nil) ?args)
    exact fun _ hargs => staysWithin_finish hstart
      (liesWithin_append.2 ⟨liesWithin_append.2 ⟨hkeyword, hcallee⟩, hargs⟩)

theorem staysWithin_leftHandSide (hg : g.StaysWithin size) :
    (leftHandSide g).StaysWithin size :=
  .bind staysWithin_here fun _ hstart => .bind staysWithin_seesWord fun _ _ => .ite
    (.bind (staysWithin_construction hg) fun _ hbase => staysWithin_suffixes hg _ hstart _ hbase)
    (.bind (staysWithin_primary hg) fun _ hbase => staysWithin_suffixes hg _ hstart _ hbase)

/-! ### Operators -/

theorem staysWithin_unary (hg : g.StaysWithin size) : (unary g).StaysWithin size := by
  have hprefixed {kind : Kind} := ((staysWithin_anyToken.append (hg .unary).child).span kind)
  refine .bind staysWithin_ahead fun _ _ => .ite hprefixed (.ite hprefixed (.ite hprefixed ?_))
  refine .bind staysWithin_here fun _ hstart => .bind (staysWithin_leftHandSide hg) fun _ he => ?_
  refine .bind staysWithin_ahead fun _ _ => .ite ?_ (.pure he)
  exact .bind staysWithin_anyToken fun _ hsign =>
    staysWithin_finish hstart (liesWithin_cons.2 ⟨he, hsign⟩)

theorem staysWithin_binaryRest (hg : g.StaysWithin size) (allowIn : Bool) (fuel least : Nat)
    (hstart : start.IsWithin size) {left : Node} (hleft : left.StartsWithin size) :
    (binaryRest g allowIn fuel least start left).StaysWithin size := by
  induction fuel generalizing least start left with
  | zero => exact .failure
  | succ fuel ih =>
      refine .bind staysWithin_ahead fun _ _ => ?_
      split
      · exact .pure hleft
      refine .ite (.pure hleft) (.bind staysWithin_anyToken fun _ hsign => ?_)
      refine .bind (.child ?_) fun _ hright => ?_
      · exact .bind staysWithin_here fun _ hinner => .bind (staysWithin_unary hg) fun _ he =>
          ih _ hinner he
      · exact .bind (staysWithin_finish hstart (liesWithin_cons.2
          ⟨hleft, liesWithin_append.2 ⟨hsign, hright⟩⟩)) fun _ hwhole => ih _ hstart hwhole

theorem staysWithin_conditional (hg : g.StaysWithin size) (allowIn : Bool) :
    (conditional g allowIn).StaysWithin size := by
  refine .bind staysWithin_here fun _ hstart => .bind (staysWithin_unary hg) fun _ hfirst => ?_
  refine .bind (staysWithin_binaryRest hg allowIn _ _ hstart hfirst) fun _ hcondition => ?_
  refine .bind staysWithin_seesMark fun _ _ => .ite ?_ (.pure hcondition)
  exact .bind (((staysWithin_mark.append (hg _).child).append staysWithin_mark).append (hg _).child)
    fun _ hrest => staysWithin_finish hstart (liesWithin_cons.2 ⟨hcondition, hrest⟩)

theorem staysWithin_yieldExpression (hg : g.StaysWithin size) (allowIn : Bool) :
    (yieldExpression g allowIn).StaysWithin size := by
  refine .span (.bind staysWithin_word fun _ hkeyword => .bind staysWithin_mark? fun _ hstar =>
    .bind staysWithin_ahead fun _ _ => .ite (.pure hkeyword) ?_) _
  exact .bind (hg _).child fun _ hvalue =>
    .pure (liesWithin_append.2 ⟨liesWithin_append.2 ⟨hkeyword, hstar⟩, hvalue⟩)

theorem staysWithin_operand (hg : g.StaysWithin size) (allowIn : Bool) :
    (operand g allowIn).StaysWithin size := by
  refine .bind staysWithin_seesWord fun _ _ => .ite (staysWithin_yieldExpression hg allowIn) ?_
  refine .bind staysWithin_here fun _ hstart => ?_
  refine .bind (staysWithin_conditional hg allowIn) fun _ hleft => ?_
  refine .bind staysWithin_ahead fun _ _ => .ite ?_ (.ite ?_ (.pure hleft))
  · exact .bind (staysWithin_mark.append (hg _).child) fun _ hrest =>
      staysWithin_finish hstart (liesWithin_cons.2 ⟨hleft.toPattern, hrest⟩)
  · exact .bind (staysWithin_anyToken.append (hg _).child) fun _ hrest =>
      staysWithin_finish hstart (liesWithin_cons.2 ⟨hleft, hrest⟩)

theorem staysWithin_moreExpressions (hg : g.StaysWithin size) (allowIn : Bool) :
    (moreExpressions g allowIn).StaysWithin size :=
  (staysWithin_mark.append (staysWithin_operand hg allowIn).child).repeatUntil _ _

theorem staysWithin_expression (hg : g.StaysWithin size) (allowIn : Bool) :
    (expression g allowIn).StaysWithin size :=
  .bind staysWithin_here fun _ hstart => .bind (staysWithin_operand hg allowIn) fun _ hfirst =>
    .bind staysWithin_seesMark fun _ _ => .ite
      (.bind (staysWithin_moreExpressions hg allowIn) fun _ hrest =>
        staysWithin_finish hstart (liesWithin_cons.2 ⟨hfirst, hrest⟩))
      (.pure hfirst)

end ComponentIndex.Script.Grammar
