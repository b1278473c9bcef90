/-
**Markup stays within its source.**

Main results:

* `ComponentIndex.Script.Grammar.liesWithin_markupName?`,
  `ComponentIndex.Script.Grammar.liesWithin_markupString?` — names and quoted values;
* `ComponentIndex.Script.Grammar.staysWithin_markupElement` — an element stays within the source.
-/

import ComponentIndex.Proofs.Script.Grammar.Rule
import ComponentIndex.Script.Grammar.Markup

set_option relaxedAutoImplicit false
set_option autoImplicit false

namespace ComponentIndex.Script.Grammar

open Located Rule

variable {size : Nat} {g : Grammar} {m : Mark}

/-! ### Names and quoted values -/

theorem liesWithin_simpleMarkupName? (kind : Kind) (h : m.IsWithin size) :
    LiesWithin size (simpleMarkupName? kind m) := by
  rw [simpleMarkupName?]
  split
  · exact liesWithin_some.2 ⟨liesWithin_childless h _, h.next.skipWhile _⟩
  · exact liesWithin_none

theorem liesWithin_markupMembers {start : Mark} (hstart : start.IsWithin size) (fuel : Nat)
    {n : Node} (hn : n.StartsWithin size) (h : m.IsWithin size) :
    LiesWithin size (markupMembers start fuel n m) := by
  induction fuel generalizing n m with
  | zero => exact ⟨hn, h⟩
  | succ fuel ih =>
      have hname := liesWithin_simpleMarkupName? .propertyIdentifier h.next
      rw [markupMembers]
      split
      · split
        next property stop heq =>
          obtain ⟨hproperty, hstop⟩ := hname _ heq
          refine ih (liesWithin_nodeBetween hstart ?_ _) hstop
          simp only [liesWithin_cons]
          exact ⟨hn.withRole _, liesWithin_childless h _, hproperty.withRole _, liesWithin_nil⟩
        · exact ⟨hn, h⟩
      · exact ⟨hn, h⟩

theorem liesWithin_markupName? (fuel : Nat) (h : m.IsWithin size) :
    LiesWithin size (markupName? fuel m) := by
  have hname := liesWithin_simpleMarkupName? .identifier h
  rw [markupName?]
  split
  · exact liesWithin_none
  next n stop heq =>
    obtain ⟨hn, hstop⟩ := hname _ heq
    have hinner := liesWithin_simpleMarkupName? .identifier hstop.next
    split
    · split
      · exact liesWithin_none
      next inner close heq =>
        obtain ⟨hinner, hclose⟩ := hinner _ heq
        refine liesWithin_some.2 ⟨liesWithin_nodeBetween h ?_ _, hclose⟩
        simp only [liesWithin_cons]
        exact ⟨hn, liesWithin_childless hstop _, hinner, liesWithin_nil⟩
    · exact liesWithin_some.2 (liesWithin_markupMembers h fuel hn hstop)

theorem liesWithin_attributeName? (h : m.IsWithin size) :
    LiesWithin size (attributeName? m) := by
  have hname := liesWithin_simpleMarkupName? .propertyIdentifier h
  rw [attributeName?]
  split
  · exact liesWithin_none
  next n stop heq =>
    obtain ⟨hn, hstop⟩ := hname _ heq
    have hinner := liesWithin_simpleMarkupName? .identifier hstop.next
    split
    · split
      · exact liesWithin_none
      next inner close heq =>
        obtain ⟨hinner, hclose⟩ := hinner _ heq
        refine liesWithin_some.2 ⟨liesWithin_nodeBetween h ?_ _, hclose⟩
        simp only [liesWithin_cons]
        exact ⟨hn.withKind _, liesWithin_childless hstop _, hinner, liesWithin_nil⟩
    · exact liesWithin_some.2 ⟨hn, hstop⟩

theorem liesWithin_characterReferenceEnd? (h : m.IsWithin size) :
    LiesWithin size (characterReferenceEnd? m) := by
  rw [characterReferenceEnd?]
  split
  · exact liesWithin_none
  split
  next start digits most heq =>
    have hstart : start.IsWithin size := by
      split at heq
      · split at heq
        · obtain ⟨rfl, -⟩ := Prod.mk.inj heq
          exact h.skip 3
        · obtain ⟨rfl, -⟩ := Prod.mk.inj heq
          exact h.skip 2
      · obtain ⟨rfl, -⟩ := Prod.mk.inj heq
        exact h.next
    dsimp only
    split
    · exact liesWithin_some.2 (hstart.skipWhile _).next
    · exact liesWithin_none

theorem isWithin_markupFragmentEnd (quote : CodePoint) (fuel : Nat) (h : m.IsWithin size) :
    (markupFragmentEnd quote fuel m).IsWithin size := by
  induction fuel generalizing m with
  | zero => exact h
  | succ fuel ih =>
      have hstop := h.skipGlyphs fun g => !(g.is quote || g.is '&')
      exact (ih hstop.next.next).ite hstop _

theorem liesWithin_markupStringParts? (quote : CodePoint) (fuel : Nat) (h : m.IsWithin size) :
    LiesWithin size (markupStringParts? quote fuel m) := by
  induction fuel generalizing m with
  | zero => exact liesWithin_none
  | succ fuel ih =>
      rw [markupStringParts?]
      split
      · exact liesWithin_some.2 ⟨liesWithin_nil, h.next⟩
      split
      next kind stop? heq =>
        have hstop? : LiesWithin size stop? := by
          dsimp only at heq
          split at heq
          · obtain ⟨-, rfl⟩ := Prod.mk.inj heq
            exact liesWithin_characterReferenceEnd? h
          · obtain ⟨-, rfl⟩ := Prod.mk.inj heq
            exact liesWithin_some.2 (isWithin_markupFragmentEnd quote fuel h)
        split
        · exact liesWithin_none
        next stop =>
          exact liesWithin_map (ih (hstop? stop rfl)) fun _ hrest =>
            ⟨liesWithin_cons.2 ⟨liesWithin_childless h _, hrest.1⟩, hrest.2⟩

theorem liesWithin_markupString? (fuel : Nat) (h : m.IsWithin size) :
    LiesWithin size (markupString? fuel m) := by
  rw [markupString?]
  split
  · exact liesWithin_none
  split
  · exact liesWithin_map (liesWithin_markupStringParts? _ fuel h.next) fun _ hparts =>
      ⟨liesWithin_nodeBetween h hparts.1 _, hparts.2⟩
  · exact liesWithin_none

/-! ### Elements -/

theorem isWithin_behindGap (fuel : Nat) (h : m.IsWithin size) :
    (behindGap fuel m).IsWithin size :=
  (liesWithin_readGap true fuel h).2

theorem staysWithin_bracedExpression (hg : g.StaysWithin size) (h : m.IsWithin size) :
    (bracedExpression g m).StaysWithin size := by
  refine .bind (staysWithin_resume h.next) fun _ _ => ?_
  refine .bind staysWithin_seesMark fun _ _ => .ite (.bind staysWithin_comments ?close)
    (.bind staysWithin_seesMark fun _ _ => .ite
      (.bind ((staysWithin_mark.append (hg _).child).span _).child ?close)
      (.bind (hg _).child ?close))
  -- Whatever the braces hold, comments and the closing brace follow.
  intro inner hinner
  refine .bind staysWithin_comments fun trailing htrailing => ?_
  refine .bind staysWithin_ahead fun close hclose => .ite ?_ .failure
  refine .bind (staysWithin_resume hclose.stop) fun _ _ => .pure (liesWithin_nodeBetween h ?_ _)
  simp only [liesWithin_append, liesWithin_cons]
  exact ⟨⟨⟨⟨liesWithin_childless h _, liesWithin_nil⟩, hinner⟩, htrailing⟩,
    liesWithin_childless hclose.start _, liesWithin_nil⟩

theorem staysWithin_attributes (hg : g.StaysWithin size) (fuel : Nat) (h : m.IsWithin size) :
    (attributes g fuel m).StaysWithin size := by
  induction fuel generalizing m with
  | zero => exact .failure
  | succ fuel ih =>
      have hm := isWithin_behindGap fuel h
      refine .ite (.pure ⟨liesWithin_nil, hm⟩) (.ite ?_ ?_)
      · exact .bind (staysWithin_bracedExpression hg hm) fun _ hn =>
          .bind staysWithin_behind fun _ hbehind => .bind (ih hbehind) fun _ hrest =>
            .pure ⟨liesWithin_cons.2 ⟨hn, hrest.1⟩, hrest.2⟩
      have hname := liesWithin_attributeName? hm
      split
      next name nameStop heq =>
        obtain ⟨hname, hnameStop⟩ := hname _ heq
        have hsign := isWithin_behindGap fuel hnameStop
        have hopening := isWithin_behindGap fuel hsign.next
        have hvalue := liesWithin_markupString? fuel hopening
        -- However the value is read, the attribute and those behind it follow.
        have hfollow (value : Node × Mark) (hvalue : LiesWithin size value) :
            Rule.StaysWithin size do
              let sign := behindGap fuel nameStop
              let n := nodeBetween .markupAttribute (behindGap fuel m) value.2
                [name, nodeBetween (.token "=") sign sign.next [], value.1]
              let others ← attributes g fuel value.2
              return (n :: others.1, others.2) := by
          refine .bind (ih hvalue.2) fun _ hrest => .pure
            ⟨liesWithin_cons.2 ⟨liesWithin_nodeBetween hm ?_ _, hrest.1⟩, hrest.2⟩
          simp only [liesWithin_cons]
          exact ⟨hname, liesWithin_childless hsign _, hvalue.1, liesWithin_nil⟩
        refine .ite ?_ ?_
        · dsimp only
          split
          next found heq => exact .bind (.pure (hvalue found heq)) hfollow
          · exact .ite
              (.bind (staysWithin_bracedExpression hg hopening) fun _ hn =>
                .bind staysWithin_behind fun _ hbehind =>
                  .bind (.pure (liesWithin_pair.2 ⟨hn, hbehind⟩)) hfollow)
              (.bind (staysWithin_resume hopening) fun _ _ => .bind (hg _) fun _ hn =>
                .bind staysWithin_behind fun _ hbehind =>
                  .bind (.pure (liesWithin_pair.2 ⟨hn, hbehind⟩)) hfollow)
        · have hparts := liesWithin_singleton.2 hname
          exact .bind (ih hnameStop) fun _ hrest => .pure
            ⟨liesWithin_cons.2 ⟨liesWithin_nodeBetween hm hparts _, hrest.1⟩, hrest.2⟩
      · exact .failure

theorem staysWithin_content (hg : g.StaysWithin size) (fuel : Nat) (h : m.IsWithin size) :
    (content g fuel m).StaysWithin size := by
  induction fuel generalizing m with
  | zero => exact .failure
  | succ fuel ih =>
      have hm := h.skipGlyphs fun c => !(c.is '<' || c.is '\x7b')
      refine .ite ?_ (.ite (.ite ?_ ?_) .failure)
      · exact .bind (staysWithin_bracedExpression hg hm) fun _ hn =>
          .bind staysWithin_behind fun _ hbehind => .bind (ih hbehind) fun _ hrest =>
            .pure ⟨liesWithin_cons.2 ⟨hn, hrest.1⟩, hrest.2⟩
      · exact .pure ⟨liesWithin_nil, hm⟩
      · exact .bind (staysWithin_resume hm) fun _ _ => .bind (hg _) fun _ hn =>
          .bind staysWithin_behind fun _ hbehind => .bind (ih hbehind) fun _ hrest =>
            .pure ⟨liesWithin_cons.2 ⟨hn, hrest.1⟩, hrest.2⟩

theorem liesWithin_tagName? (fuel : Nat) (h : m.IsWithin size) :
    LiesWithin size (tagName? fuel m) := by
  rw [tagName?]
  split
  · exact liesWithin_some.2 ⟨liesWithin_nil, h⟩
  · exact liesWithin_map (liesWithin_markupName? fuel h) fun _ hname =>
      ⟨liesWithin_singleton.2 hname.1, hname.2⟩

theorem staysWithin_markupElement (hg : g.StaysWithin size) :
    (markupElement g).StaysWithin size := by
  refine .bind staysWithin_here fun m hm => .ite .failure_bind (.bind .get fun p _ => ?_)
  have hgap {m : Mark} (h : m.IsWithin size) := isWithin_behindGap p.fuel h
  dsimp only
  split
  next name nameStop heq =>
    obtain ⟨hname, hnameStop⟩ := liesWithin_tagName? _ (hgap hm.next) _ heq
    refine .bind (staysWithin_attributes hg _ hnameStop) fun ⟨attrs, stop⟩ ⟨hattrs, hstop⟩ => ?_
    have htag : LiesWithin size (nodeBetween (.token "<") m m.next [] :: (name ++ attrs)) :=
      liesWithin_cons.2 ⟨liesWithin_childless hm _, liesWithin_append.2 ⟨hname, hattrs⟩⟩
    refine .ite (.ite .failure_bind ?_) ?_
    · exact .bind (staysWithin_resume (hgap hstop.next).next) fun _ _ =>
        .pure (liesWithin_nodeBetween hm htag _)
    refine .bind (staysWithin_content hg _ hstop.next) fun ⟨inner, closing⟩ ⟨hinner, hclosing⟩ => ?_
    have hslash := hgap hclosing.next
    dsimp only
    split
    next closeName closeStop heq =>
      obtain ⟨hcloseName, hcloseStop⟩ := liesWithin_tagName? _ (hgap hslash.next) _ heq
      refine .ite .failure_bind (.bind (staysWithin_resume (hgap hcloseStop).next) fun _ _ => ?_)
      refine .pure (liesWithin_nodeBetween hm (liesWithin_cons.2
        ⟨liesWithin_nodeBetween hm htag _, liesWithin_append.2 ⟨hinner, liesWithin_cons.2
          ⟨liesWithin_nodeBetween hclosing (liesWithin_cons.2 ⟨?_, hcloseName⟩) _,
            liesWithin_nil⟩⟩⟩) _)
      exact liesWithin_childless hclosing _
    · exact .failure
  · exact .failure

end ComponentIndex.Script.Grammar
