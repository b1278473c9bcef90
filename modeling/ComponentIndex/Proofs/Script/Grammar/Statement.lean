/-
**Statements stay within their source.**

Main results:

* `ComponentIndex.Script.Grammar.staysWithin_declaration?` — functions, classes and variables;
* `ComponentIndex.Script.Grammar.staysWithin_importStatement`,
  `ComponentIndex.Script.Grammar.staysWithin_exportStatement` — modules;
* `ComponentIndex.Script.Grammar.staysWithin_statement` — any statement.
-/

import ComponentIndex.Proofs.Script.Grammar.Expression
import ComponentIndex.Script.Grammar.Statement

set_option relaxedAutoImplicit false
set_option autoImplicit false

namespace ComponentIndex.Script.Grammar

open Located Rule

variable {size : Nat} {g : Grammar} {start : Mark} {before : List Node}

/-! ### Looking ahead -/

theorem staysWithin_wouldSee {rule : Rule Bool} (h : rule.StaysWithin size) :
    (wouldSee rule).StaysWithin size :=
  .bind .get fun _ hplace => .bind h fun _ _ => .bind (.set hplace) fun _ _ => .pure trivial

theorem staysWithin_secondToken {p : Token → Bool} : (secondToken p).StaysWithin size :=
  staysWithin_wouldSee <| .bind staysWithin_pass fun _ _ => .bind staysWithin_ahead fun _ _ =>
    .pure trivial

theorem staysWithin_seesPossibleObject : seesPossibleObject.StaysWithin size :=
  staysWithin_wouldSee <| .bind staysWithin_pass fun _ _ => .bind staysWithin_pass fun _ _ =>
    .bind staysWithin_ahead fun _ _ => .pure trivial

/-! ### Parts of statements -/

theorem staysWithin_condition (hg : g.StaysWithin size) : (condition g).StaysWithin size :=
  (((staysWithin_mark.append (hg _).child).append staysWithin_comments).append
    staysWithin_mark).span _

theorem staysWithin_expressionStatement (hg : g.StaysWithin size) :
    (expressionStatement g).StaysWithin size :=
  ((staysWithin_expression hg _).child.append staysWithin_semicolon).span _

theorem staysWithin_bracedStatement (hg : g.StaysWithin size) :
    (bracedStatement g).StaysWithin size :=
  .bind staysWithin_seesPossibleObject fun _ _ => .ite
    (.orElse (staysWithin_expressionStatement hg) (staysWithin_block hg))
    (.orElse (staysWithin_block hg) (staysWithin_expressionStatement hg))

theorem staysWithin_closingBlock (hg : g.StaysWithin size) (goesOn : Token → Bool) :
    (closingBlock g goesOn).StaysWithin size :=
  .bind (staysWithin_block hg) fun _ hn => .bind staysWithin_ahead fun _ _ =>
    .ite .failure (.pure hn)

theorem staysWithin_innerStatement (hg : g.StaysWithin size) (goesOn : Token → Bool) :
    (innerStatement g goesOn).StaysWithin size :=
  .bind staysWithin_seesMark fun _ _ => .ite
    (.bind staysWithin_seesPossibleObject fun _ _ => .ite
      (.orElse (staysWithin_closingBlock hg goesOn) (staysWithin_bracedStatement hg))
      (staysWithin_bracedStatement hg))
    (hg _)

theorem staysWithin_finalStatement (hg : g.StaysWithin size) :
    (finalStatement g).StaysWithin size :=
  staysWithin_innerStatement hg _

/-! ### Declarations -/

theorem staysWithin_declarator (hg : g.StaysWithin size) (allowIn : Bool) :
    (declarator g allowIn).StaysWithin size :=
  .bind staysWithin_here fun _ hstart => .bind (hg _) fun _ htarget =>
    .bind staysWithin_seesMark fun _ _ => .ite
      (.bind (staysWithin_mark.append ((hg _).childAs _)) fun _ hrest =>
        staysWithin_finish hstart (liesWithin_cons.2 ⟨htarget, hrest⟩))
      (staysWithin_finish hstart (liesWithin_singleton.2 htarget))

theorem staysWithin_moreDeclarators (hg : g.StaysWithin size) (allowIn : Bool) :
    (moreDeclarators g allowIn).StaysWithin size :=
  (staysWithin_mark.append (staysWithin_declarator hg allowIn).child).repeatUntil _ _

theorem staysWithin_seesVariables : seesVariables.StaysWithin size :=
  .bind staysWithin_ahead fun _ _ => .ite (.pure trivial) <|
    .ite staysWithin_secondToken (.pure trivial)

theorem staysWithin_variableStatement (hg : g.StaysWithin size) :
    (variableStatement g).StaysWithin size :=
  .bind staysWithin_ahead fun _ _ => Rule.StaysWithin.span
    (((staysWithin_anyToken.append (staysWithin_declarator hg _).child).append
      (staysWithin_moreDeclarators hg _)).append staysWithin_semicolon) _

theorem staysWithin_declaration? (hg : g.StaysWithin size) :
    (declaration? g).StaysWithin size := by
  have hsome {rule : Rule Node} (h : rule.StaysWithin size) :
      Rule.StaysWithin size do return some (← rule) :=
    .bind h fun _ hn => .pure (liesWithin_some.2 hn)
  refine .bind staysWithin_ahead fun _ _ => .bind staysWithin_here fun _ hstart => ?_
  refine .ite (hsome (staysWithin_functionFrom hg _ hstart liesWithin_nil)) ?_
  refine .ite (hsome (staysWithin_classFrom hg _ hstart liesWithin_nil)) (.ite ?_ (.ite ?_ ?_))
  · refine .bind .get fun _ hplace => .bind (staysWithin_decorators hg) fun _ hdecorated => ?_
    exact .bind staysWithin_seesWord fun _ _ => .ite
      (hsome (staysWithin_classFrom hg _ hstart hdecorated))
      (.bind (.set hplace) fun _ _ => .pure liesWithin_none)
  · exact .bind staysWithin_secondToken fun _ _ => .ite
      (.bind staysWithin_word fun _ hkeyword =>
        hsome (staysWithin_functionFrom hg _ hstart hkeyword))
      (.pure liesWithin_none)
  · exact .bind staysWithin_seesVariables fun _ _ => .ite
      (hsome (staysWithin_variableStatement hg)) (.pure liesWithin_none)

/-! ### Modules -/

theorem staysWithin_fromClause : fromClause.StaysWithin size :=
  staysWithin_word.append staysWithin_stringLiteral.child

theorem staysWithin_importAttributes (hg : g.StaysWithin size) :
    (importAttributes g).StaysWithin size :=
  .bind staysWithin_seesWord fun _ _ => .bind staysWithin_seesWord fun _ _ => .ite
    ((staysWithin_anyToken.append (staysWithin_objectLiteral hg).child).span _).child
    (.pure liesWithin_nil)

theorem staysWithin_exportedName : exportedName.StaysWithin size := by
  refine .bind staysWithin_ahead fun _ _ => ?_
  split
  · exact staysWithin_stringLiteral.child
  · exact .ite staysWithin_anyToken staysWithin_leaf
  · exact .failure

theorem staysWithin_specifier (kind : Kind) : (specifier kind).StaysWithin size :=
  .span (.bind staysWithin_exportedName fun _ hname => .bind staysWithin_seesWord fun _ _ => .ite
    (.bind (staysWithin_word.append staysWithin_exportedName) fun _ hother =>
      .pure (liesWithin_append.2 ⟨hname, hother⟩))
    (.pure hname)) _

theorem staysWithin_specifiers (list item : Kind) : (specifiers g list item).StaysWithin size :=
  (staysWithin_specifier item).bracketed _ _ _ _

theorem staysWithin_namedOrAll : (namedOrAll g).StaysWithin size :=
  .bind staysWithin_seesMark fun _ _ => .ite
    (((staysWithin_mark.append staysWithin_word).append staysWithin_identifier.child).span _)
    (staysWithin_specifiers _ _)

theorem staysWithin_importClause : (importClause g).StaysWithin size :=
  .span (.bind staysWithin_ahead fun _ _ => .ite
    (.bind staysWithin_identifier.child fun _ hfirst => .bind staysWithin_seesMark fun _ _ => .ite
      (.bind (staysWithin_mark.append staysWithin_namedOrAll.child) fun _ hrest =>
        .pure (liesWithin_append.2 ⟨hfirst, hrest⟩))
      (.pure hfirst))
    staysWithin_namedOrAll.child) _

theorem staysWithin_importStatement (hg : g.StaysWithin size) :
    (importStatement g).StaysWithin size := by
  refine .span (.bind staysWithin_word fun _ hkeyword => .bind staysWithin_ahead fun t _ => ?_) _
  have hrest {source : List Node} (hsource : LiesWithin size source) :=
    StaysWithin.bind ((staysWithin_importAttributes hg).append staysWithin_semicolon)
      fun rest hrest => .pure (liesWithin_append.2
        ⟨liesWithin_append.2 ⟨hkeyword, hsource⟩, hrest⟩)
  dsimp only
  split
  · exact .bind staysWithin_stringLiteral.child fun _ hsource => hrest hsource
  · exact .bind (staysWithin_importClause.child.append staysWithin_fromClause)
      fun _ hsource => hrest hsource

theorem staysWithin_defaultExport (hg : g.StaysWithin size) :
    (defaultExport g).StaysWithin size := by
  refine .bind .get fun _ hplace => .bind (staysWithin_wouldSee ?_) fun _ _ => .ite ?_ ?_
  · have hfunction : Rule.StaysWithin size do
        if ← seesWord "function" then
          let _ ← pass
          let _ ← mark? "*"
          return (← ahead).isName
        else return false :=
      .bind staysWithin_seesWord fun _ _ => .ite
        (.bind staysWithin_pass fun _ _ => .bind staysWithin_mark? fun _ _ =>
          .bind staysWithin_ahead fun _ _ => .pure trivial)
        (.pure trivial)
    exact .bind staysWithin_ahead fun _ _ => .ite
      (.bind staysWithin_pass fun _ _ => .bind staysWithin_ahead fun _ _ => .pure trivial)
      (.ite (.bind staysWithin_pass fun _ _ => hfunction) hfunction)
  · exact .bind staysWithin_comments fun _ houter => .bind_option (staysWithin_declaration? hg)
      (fun _ hn => .pure (liesWithin_append.2 ⟨houter, liesWithin_singleton.2 hn⟩))
      .failure
  · exact .bind (.set hplace) fun _ _ => ((hg _).childAs _).append staysWithin_semicolon

theorem staysWithin_exportAll : exportAll.StaysWithin size :=
  .bind staysWithin_here fun _ hstart => .bind staysWithin_mark fun _ hstar =>
    .bind staysWithin_seesWord fun _ _ => .ite
      (.bind (staysWithin_word.append staysWithin_exportedName) fun _ hrest =>
        .bind (staysWithin_finish hstart (liesWithin_append.2 ⟨hstar, hrest⟩)) fun _ hn =>
          .pure (liesWithin_singleton.2 hn))
      (.pure hstar)

theorem staysWithin_exportStatement (hg : g.StaysWithin size) (hstart : start.IsWithin size)
    (hbefore : LiesWithin size before) : (exportStatement g start before).StaysWithin size := by
  refine .bind staysWithin_word fun _ hkeyword => .bind staysWithin_comments fun _ houter => ?_
  refine .bind staysWithin_seesWord fun _ _ => .ite
    (.bind (staysWithin_word.append (staysWithin_defaultExport hg)) ?rest)
    (.bind staysWithin_seesMark fun _ _ => .ite
      (.bind (((staysWithin_exportAll.append staysWithin_fromClause).append
        (staysWithin_importAttributes hg)).append staysWithin_semicolon) ?rest)
      (.bind staysWithin_seesMark fun _ _ => .ite
        (.bind (staysWithin_specifiers _ _).child fun _ hnames => ?names)
        (.bind_option (staysWithin_declaration? hg)
          (fun _ hn => .bind (.pure (liesWithin_singleton.2 hn)) ?rest)
          .failure_bind)))
  case names =>
    refine .bind staysWithin_seesWord fun _ _ => .ite
      (.bind (staysWithin_fromClause.append (staysWithin_importAttributes hg)) ?close)
      (.bind (.pure liesWithin_nil) ?close)
    exact fun _ hsource => .bind staysWithin_semicolon fun _ hclose => .bind (.pure
      (liesWithin_append.2 ⟨liesWithin_append.2 ⟨hnames, hsource⟩, hclose⟩)) ?rest
  case rest =>
    exact fun _ hrest => staysWithin_finish hstart (liesWithin_append.2
      ⟨liesWithin_append.2 ⟨liesWithin_append.2 ⟨hbefore, hkeyword⟩, houter⟩, hrest⟩)

/-! ### Control flow -/

theorem staysWithin_ifStatement (hg : g.StaysWithin size) : (ifStatement g).StaysWithin size :=
  .span (.bind ((staysWithin_word.append (staysWithin_condition hg).child).append
      (staysWithin_innerStatement hg _).child) fun _ hrest =>
    .bind staysWithin_seesWord fun _ _ => .ite
      (.bind ((staysWithin_word.append (staysWithin_finalStatement hg).child).span _).child
        fun _ hother => .pure (liesWithin_append.2 ⟨hrest, hother⟩))
      (.pure hrest)) _

theorem staysWithin_loopSource (hg : g.StaysWithin size) : (loopSource g).StaysWithin size :=
  .bind staysWithin_seesWord fun _ _ => .bind staysWithin_seesWord fun _ _ => .ite
    (((staysWithin_anyToken.append (hg _).child).append staysWithin_comments).append
      staysWithin_mark)
    .failure

theorem staysWithin_emptyStatement : (span .emptyStatement anyToken).StaysWithin size :=
  staysWithin_anyToken.span _

theorem staysWithin_loopSteps (hg : g.StaysWithin size) : (loopSteps g).StaysWithin size := by
  refine .bind staysWithin_seesMark fun _ _ => .ite
    (.bind staysWithin_emptyStatement.child ?step)
    (.bind ((hg _).child.append staysWithin_mark) ?step)
  refine fun _ htest => .bind staysWithin_seesMark fun _ _ => .ite
    (.bind staysWithin_comments ?close)
    (.bind ((hg _).child.append staysWithin_comments) ?close)
  exact fun _ hstep => .bind staysWithin_mark fun _ hclose =>
    .pure (liesWithin_append.2 ⟨liesWithin_append.2 ⟨htest, hstep⟩, hclose⟩)

theorem staysWithin_declaringHead (hg : g.StaysWithin size) :
    (declaringHead g).StaysWithin size := by
  refine .bind staysWithin_here fun _ hstart => .bind staysWithin_ahead fun _ _ => ?_
  refine .bind staysWithin_comments fun _ houter => .bind staysWithin_anyToken fun _ hkeyword => ?_
  refine .bind staysWithin_here fun _ hfirst => .bind (hg _).child fun _ htarget => ?_
  refine .bind staysWithin_seesWord fun _ _ => .bind staysWithin_seesWord fun _ _ => .ite ?_ ?_
  · exact .bind (staysWithin_loopSource hg) fun _ hrest => .pure ⟨trivial, liesWithin_append.2
      ⟨liesWithin_append.2 ⟨liesWithin_append.2 ⟨houter, hkeyword⟩, htarget⟩, hrest⟩⟩
  refine .bind staysWithin_seesMark fun _ _ => .ite
    (.bind (staysWithin_mark.append ((hg _).childAs _)) ?value)
    (.bind (.pure liesWithin_nil) ?value)
  refine fun _ hvalue => .bind (staysWithin_finish hfirst (liesWithin_append.2
    ⟨htarget, hvalue⟩)) fun _ hdeclared => ?_
  refine .bind ((staysWithin_moreDeclarators hg _).append staysWithin_mark) fun _ hmore => ?_
  refine .bind (staysWithin_finish hstart (liesWithin_append.2 ⟨liesWithin_append.2
    ⟨hkeyword, liesWithin_singleton.2 hdeclared⟩, hmore⟩)) fun _ hdeclaration => ?_
  exact .bind (staysWithin_loopSteps hg) fun _ hrest => .pure ⟨trivial, liesWithin_append.2
    ⟨houter, liesWithin_cons.2 ⟨hdeclaration, hrest⟩⟩⟩

theorem staysWithin_plainHead (hg : g.StaysWithin size) : (plainHead g).StaysWithin size := by
  refine .bind staysWithin_seesMark fun _ _ => .ite ?_ ?_
  · exact .bind staysWithin_emptyStatement.child fun _ hempty =>
      .bind (staysWithin_loopSteps hg) fun _ hrest =>
        .pure ⟨trivial, liesWithin_append.2 ⟨hempty, hrest⟩⟩
  refine .bind staysWithin_comments fun _ houter => .bind (hg _) fun _ hfirst => ?_
  refine .bind staysWithin_seesWord fun _ _ => .bind staysWithin_seesWord fun _ _ => .ite ?_ ?_
  · exact .bind (staysWithin_loopSource hg) fun _ hrest => .pure ⟨trivial, liesWithin_append.2
      ⟨houter, liesWithin_cons.2 ⟨hfirst.toPattern, hrest⟩⟩⟩
  · exact .bind staysWithin_mark fun _ hsign => .bind (staysWithin_loopSteps hg) fun _ hrest =>
      .pure ⟨trivial, liesWithin_append.2 ⟨houter, liesWithin_cons.2
        ⟨hfirst, liesWithin_append.2 ⟨hsign, hrest⟩⟩⟩⟩

theorem staysWithin_forStatement (hg : g.StaysWithin size) :
    (forStatement g).StaysWithin size := by
  refine .bind staysWithin_here fun _ hstart => ?_
  refine .bind ((staysWithin_word.append staysWithin_word?).append staysWithin_mark)
    fun _ hopening => ?_
  refine .bind staysWithin_seesVariables fun _ _ => .ite
    (.bind (staysWithin_declaringHead hg) ?body) (.bind (staysWithin_plainHead hg) ?body)
  exact fun _ hhead => .bind (staysWithin_finalStatement hg).child fun _ hbody =>
    staysWithin_finish hstart (liesWithin_append.2
      ⟨liesWithin_append.2 ⟨hopening, hhead.2⟩, hbody⟩)

theorem staysWithin_whileStatement (hg : g.StaysWithin size) :
    (whileStatement g).StaysWithin size :=
  ((staysWithin_word.append (staysWithin_condition hg).child).append
    (staysWithin_finalStatement hg).child).span _

theorem staysWithin_doStatement (hg : g.StaysWithin size) : (doStatement g).StaysWithin size :=
  ((((staysWithin_word.append (staysWithin_innerStatement hg _).child).append
    staysWithin_word).append (staysWithin_condition hg).child).append staysWithin_mark?).span _

theorem staysWithin_branch (hg : g.StaysWithin size) : (branch g).StaysWithin size := by
  have hbody : (branchBody g).StaysWithin size := (hg _).child.repeatUntil _ _
  exact .bind staysWithin_seesWord fun _ _ => .ite
    (((staysWithin_word.append staysWithin_mark).append hbody).span _)
    ((((staysWithin_word.append (hg _).child).append staysWithin_mark).append hbody).span _)

theorem staysWithin_switchStatement (hg : g.StaysWithin size) :
    (switchStatement g).StaysWithin size := by
  have hbranches : (repeatUntil (Token.isMark "\x7d") (child (branch g)) g.fuel).StaysWithin size :=
    (staysWithin_branch hg).child.repeatUntil _ _
  exact ((staysWithin_word.append (staysWithin_condition hg).child).append
    (((staysWithin_mark.append hbranches).append staysWithin_mark).span _).child).span _

theorem staysWithin_catchClause (hg : g.StaysWithin size) : (catchClause g).StaysWithin size := by
  refine .span (.bind staysWithin_word fun _ hkeyword => .bind staysWithin_seesMark fun _ _ => .ite
    (.bind ((staysWithin_mark.append (hg _).child).append staysWithin_mark) ?body)
    (.bind (.pure liesWithin_nil) ?body)) _
  exact fun _ hparameter => .bind (staysWithin_block hg).child fun _ hbody => .pure
    (liesWithin_append.2 ⟨liesWithin_append.2 ⟨hkeyword, hparameter⟩, hbody⟩)

theorem staysWithin_tryStatement (hg : g.StaysWithin size) : (tryStatement g).StaysWithin size := by
  refine .span (.bind (staysWithin_word.append (staysWithin_block hg).child) fun _ hattempt =>
    .bind staysWithin_seesWord fun _ _ => .ite
      (.bind (staysWithin_catchClause hg).child ?final) (.bind (.pure liesWithin_nil) ?final)) _
  refine fun _ hhandler => .bind staysWithin_seesWord fun _ _ => .ite
    (.bind ((staysWithin_word.append (staysWithin_block hg).child).span _).child ?close)
    (.bind (.pure liesWithin_nil) ?close)
  exact fun _ hfinal => .ite .failure_bind (.pure
    (liesWithin_append.2 ⟨liesWithin_append.2 ⟨hattempt, hhandler⟩, hfinal⟩))

theorem staysWithin_jumpStatement {operand : Rule (List Node)} (h : operand.StaysWithin size)
    (kind : Kind) : (jumpStatement kind operand).StaysWithin size :=
  .span (.bind staysWithin_anyToken fun _ hkeyword => .bind staysWithin_ahead fun _ _ => .ite
    (.bind staysWithin_mark? fun _ hclose => .pure (liesWithin_append.2 ⟨hkeyword, hclose⟩))
    (.bind (h.append staysWithin_semicolon) fun _ hrest =>
      .pure (liesWithin_append.2 ⟨hkeyword, hrest⟩))) _

theorem staysWithin_labeledStatement (hg : g.StaysWithin size) :
    (labeledStatement g).StaysWithin size :=
  ((staysWithin_leaf.append staysWithin_mark).append (staysWithin_finalStatement hg).child).span _

/-- One keyword more that opens a statement. -/
theorem staysWithin_some_or {c : Prop} [Decidable c] {rule : Rule Node} {other : Option (Rule Node)}
    (h : rule.StaysWithin size) (hother : ∀ r ∈ other, r.StaysWithin size) :
    ∀ r ∈ (if c then some rule else other), r.StaysWithin size := by
  split
  · rintro _ ⟨⟩
    exact h
  · exact hother

theorem staysWithin_keywordStatement? (hg : g.StaysWithin size) (t : Token) :
    ∀ rule ∈ keywordStatement? g t, rule.StaysWithin size := by
  have hwith : (span .withStatement
      (word "with" ++ child (condition g) ++ child (finalStatement g))).StaysWithin size :=
    ((staysWithin_word.append (staysWithin_condition hg).child).append
      (staysWithin_finalStatement hg).child).span _
  have hdebugger : (span .debuggerStatement (anyToken ++ semicolon)).StaysWithin size :=
    (staysWithin_anyToken.append staysWithin_semicolon).span _
  exact staysWithin_some_or (staysWithin_ifStatement hg) <|
    staysWithin_some_or (staysWithin_forStatement hg) <|
    staysWithin_some_or (staysWithin_whileStatement hg) <|
    staysWithin_some_or (staysWithin_doStatement hg) <|
    staysWithin_some_or (staysWithin_switchStatement hg) <|
    staysWithin_some_or (staysWithin_tryStatement hg) <|
    staysWithin_some_or hwith <|
    staysWithin_some_or (staysWithin_jumpStatement (hg _).child _) <|
    staysWithin_some_or (staysWithin_jumpStatement (hg _).child _) <|
    staysWithin_some_or (staysWithin_jumpStatement staysWithin_leaf _) <|
    staysWithin_some_or (staysWithin_jumpStatement staysWithin_leaf _) <|
    staysWithin_some_or hdebugger nofun

theorem staysWithin_declarationOrExpression (hg : g.StaysWithin size) :
    (do
      match ← declaration? g with
      | some n => return n
      | none => expressionStatement g : Rule Node).StaysWithin size :=
  .bind_option (staysWithin_declaration? hg) (fun _ hn => .pure hn)
    (staysWithin_expressionStatement hg)

theorem staysWithin_wordStatement (hg : g.StaysWithin size) (t : Token) :
    (wordStatement g t).StaysWithin size := by
  have hkeyword := staysWithin_keywordStatement? hg t
  rw [wordStatement]
  split
  next rule heq => exact hkeyword rule heq
  · exact .ite
      (.bind staysWithin_here fun _ hstart => staysWithin_exportStatement hg hstart liesWithin_nil)
      (.bind staysWithin_secondToken fun _ _ => .ite (staysWithin_importStatement hg)
        (.bind staysWithin_secondToken fun _ _ => .ite (staysWithin_labeledStatement hg)
          (staysWithin_declarationOrExpression hg)))

theorem staysWithin_statement (hg : g.StaysWithin size) : (statement g).StaysWithin size := by
  refine .bind staysWithin_ahead fun t _ => .ite (staysWithin_wordStatement hg t) <| .ite
    (staysWithin_bracedStatement hg) <| .ite staysWithin_emptyStatement <| .ite ?_
    (staysWithin_expressionStatement hg)
  refine .bind staysWithin_here fun _ hstart => .bind .get fun _ hplace => ?_
  refine .bind (staysWithin_decorators hg) fun _ hdecorated => ?_
  exact .bind staysWithin_seesWord fun _ _ => .ite
    (staysWithin_exportStatement hg hstart hdecorated)
    (.bind (.set hplace) fun _ _ => staysWithin_declarationOrExpression hg)

end ComponentIndex.Script.Grammar
