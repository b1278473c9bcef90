/-
**Functions, objects and classes stay within their source.**

Main results:

* `ComponentIndex.Script.Grammar.staysWithin_functionFrom`,
  `ComponentIndex.Script.Grammar.staysWithin_objectLiteral`,
  `ComponentIndex.Script.Grammar.staysWithin_classFrom` — functions, objects and classes.
-/

import ComponentIndex.Proofs.Script.Grammar.Pattern
import ComponentIndex.Script.Grammar.Function

set_option relaxedAutoImplicit false
set_option autoImplicit false

namespace ComponentIndex.Script.Grammar

open Located Rule

variable {size : Nat} {g : Grammar} {start : Mark} {before : List Node}

/-! ### Functions -/

theorem staysWithin_block (hg : g.StaysWithin size) : (block g).StaysWithin size :=
  ((staysWithin_mark.append ((hg _).child.repeatUntil _ _)).append staysWithin_mark).span _

theorem staysWithin_name? : name?.StaysWithin size :=
  .bind staysWithin_ahead fun _ _ => .ite staysWithin_identifier.child (.pure liesWithin_nil)

theorem staysWithin_functionFrom (hg : g.StaysWithin size) (declares : Bool)
    (hstart : start.IsWithin size) (hbefore : LiesWithin size before) :
    (functionFrom g declares start before).StaysWithin size := by
  refine .bind staysWithin_word fun _ hkeyword => .bind staysWithin_mark? fun _ hstar => ?_
  refine .bind ((staysWithin_name?.append (staysWithin_formalParameters hg).child).append
    (staysWithin_block hg).child) fun _ hrest => staysWithin_finish hstart ?_
  simp only [liesWithin_append]
  exact ⟨⟨⟨hbefore, hkeyword⟩, hstar⟩, hrest⟩

theorem staysWithin_methodFrom (hg : g.StaysWithin size) (hstart : start.IsWithin size)
    (hbefore : LiesWithin size before) : (methodFrom g start before).StaysWithin size :=
  .bind ((staysWithin_formalParameters hg).child.append (staysWithin_block hg).child)
    fun _ hrest => staysWithin_finish hstart (liesWithin_append.2 ⟨hbefore, hrest⟩)

/-! ### Objects -/

theorem staysWithin_modifiers (fuel : Nat) : (modifiers fuel).StaysWithin size := by
  induction fuel with
  | zero => exact .pure liesWithin_nil
  | succ fuel ih =>
      refine .bind staysWithin_ahead fun _ _ => .ite staysWithin_anyToken ?_
      refine .ite ?_ (.pure liesWithin_nil)
      refine .bind .get fun _ hplace => .bind staysWithin_anyToken fun _ hmodifier => ?_
      refine .bind staysWithin_ahead fun _ _ => .ite ?_ ?_
      · exact .bind ih fun _ hrest => .pure (liesWithin_append.2 ⟨hmodifier, hrest⟩)
      · exact .bind (.set hplace) fun _ _ => .pure liesWithin_nil

theorem staysWithin_spreadElement (hg : g.StaysWithin size) :
    (spreadElement g).StaysWithin size :=
  (staysWithin_mark.append (hg _).child).span _

theorem staysWithin_objectMember (hg : g.StaysWithin size) :
    (objectMember g).StaysWithin size := by
  refine .bind staysWithin_seesMark fun _ _ => .ite (staysWithin_spreadElement hg) ?_
  refine .bind staysWithin_here fun _ hstart => ?_
  refine .bind (staysWithin_modifiers 4) fun _ hbefore => ?_
  refine .bind staysWithin_ahead fun _ _ => ?_
  refine .bind (staysWithin_propertyName hg) fun _ hkey => ?_
  refine .bind staysWithin_seesMark fun _ _ => .ite ?_ (.ite .failure ?_)
  · exact staysWithin_methodFrom hg hstart
      (liesWithin_append.2 ⟨hbefore, liesWithin_singleton.2 hkey⟩)
  refine .bind staysWithin_seesMark fun _ _ => .ite ?_ (.ite .failure ?_)
  · exact .bind (staysWithin_mark.append ((hg _).childAs _)) fun _ hrest =>
      staysWithin_finish hstart (liesWithin_cons.2 ⟨hkey.withRole _, hrest⟩)
  refine .bind staysWithin_seesMark fun _ _ => .ite ?_ (.pure (hkey.withKind _))
  exact .bind (staysWithin_mark.append (hg _).child) fun _ hrest =>
    staysWithin_finish hstart (liesWithin_cons.2 ⟨hkey.withKind _, hrest⟩)

theorem staysWithin_objectLiteral (hg : g.StaysWithin size) :
    (objectLiteral g).StaysWithin size :=
  (staysWithin_objectMember hg).bracketed _ _ _ _

/-! ### Classes -/

theorem staysWithin_decorators (hg : g.StaysWithin size) : (decorators g).StaysWithin size :=
  ((staysWithin_mark.append (hg _).child).span _).child.repeatUntil _ _

theorem staysWithin_classMember (hg : g.StaysWithin size) : (classMember g).StaysWithin size := by
  refine .bind staysWithin_seesMark fun _ _ => .ite staysWithin_anyToken ?_
  refine .bind staysWithin_comments fun _ houter => .bind staysWithin_here fun _ hstart => ?_
  refine .bind (staysWithin_decorators hg) fun _ hdecorated => .bind .get fun _ hplace => ?_
  refine .bind staysWithin_word? fun _ hstatic => .bind staysWithin_ahead fun _ _ => .ite ?_ ?_
  · refine .bind (staysWithin_block hg).child fun _ hbody => ?_
    refine .bind (staysWithin_finish hstart ?_) fun _ hblock => .pure ?_
    · simp only [liesWithin_append]
      exact ⟨⟨hdecorated, hstatic⟩, hbody⟩
    · exact liesWithin_append.2 ⟨houter, liesWithin_singleton.2 hblock⟩
  refine .bind (.set hplace) fun _ _ => .bind (staysWithin_modifiers 4) fun _ hmodified => ?_
  refine .bind (staysWithin_propertyName hg).child fun _ hkey => ?_
  have hhead := liesWithin_append.2 ⟨liesWithin_append.2 ⟨hdecorated, hmodified⟩, hkey⟩
  refine .bind staysWithin_seesMark fun _ _ => .ite ?_ ?_
  · exact .bind (staysWithin_methodFrom hg hstart hhead) fun _ hmethod =>
      .pure (liesWithin_append.2 ⟨houter, liesWithin_singleton.2 hmethod⟩)
  refine .bind staysWithin_seesMark fun _ _ => .ite
    (.bind (staysWithin_mark.append ((hg _).childAs _)) ?field)
    (.bind (.pure liesWithin_nil) ?field)
  exact fun _ hvalue =>
    .bind (staysWithin_finish hstart (liesWithin_append.2 ⟨hhead, hvalue⟩)) fun _ hfield =>
      .bind staysWithin_semicolon fun _ hclose =>
        .pure (liesWithin_append.2 ⟨houter, liesWithin_cons.2 ⟨hfield, hclose⟩⟩)

theorem staysWithin_classBody (hg : g.StaysWithin size) : (classBody g).StaysWithin size :=
  ((staysWithin_mark.append ((staysWithin_classMember hg).repeatUntil _ _)).append
    staysWithin_mark).span _

theorem staysWithin_heritage? (hg : g.StaysWithin size) : (heritage? g).StaysWithin size :=
  .bind staysWithin_seesWord fun _ _ => .ite
    ((staysWithin_word.append (hg _).child).span _).child (.pure liesWithin_nil)

theorem staysWithin_classFrom (hg : g.StaysWithin size) (declares : Bool)
    (hstart : start.IsWithin size) (hbefore : LiesWithin size before) :
    (classFrom g declares start before).StaysWithin size :=
  .bind (((staysWithin_word.append staysWithin_name?).append (staysWithin_heritage? hg)).append
      (staysWithin_classBody hg).child) fun _ hrest =>
    staysWithin_finish hstart (liesWithin_append.2 ⟨hbefore, hrest⟩)

end ComponentIndex.Script.Grammar
