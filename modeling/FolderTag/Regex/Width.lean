import FolderTag.Regex.Token

/-! # Width

How many characters an expression consumes. A lookbehind is only possible over an expression that
always consumes the same number. -/

namespace FolderTag.Regex

/-- The greatest width that is told apart; wider expressions count as this wide. -/
def Width.limit : Nat := 0x10000000000000000

/-- The widest lookbehind. -/
def lookbehindLimit : Nat := 0xffffffff

/-- Both bounds cut off at the limit. -/
def Width.clamp (w : Width) : Width := ⟨min w.low Width.limit, min w.high Width.limit⟩

/-- The width of an expression, where `groups` tells the widths of the closed groups. -/
def Node.width (groups : List (Option Width)) : Node → Width
  | .empty => ⟨0, 0⟩
  | .seq a b =>
      let x := a.width groups
      let y := b.width groups
      Width.clamp ⟨x.low + y.low, x.high + y.high⟩
  | .alt a b =>
      let x := a.width groups
      let y := b.width groups
      ⟨min x.low y.low, max x.high y.high⟩
  | .code _ _ => ⟨1, 1⟩
  | .any => ⟨1, 1⟩
  | .set _ _ => ⟨1, 1⟩
  | .anchor _ => ⟨0, 0⟩
  | .group _ _ _ body => body.width groups
  | .atomic body => body.width groups
  | .rep _ low high body =>
      let x := body.width groups
      match high with
      | none => Width.clamp ⟨x.low * low, if x.high = 0 then 0 else Width.limit⟩
      | some h => Width.clamp ⟨x.low * low, x.high * h⟩
  | .look _ _ _ => ⟨0, 0⟩
  | .backref g => Width.clamp (((groups[g - 1]?).getD none).getD ⟨0, 0⟩)
  | .cond _ yes no =>
      let x := yes.width groups
      let y := no.width groups
      ⟨min x.low y.low, max x.high y.high⟩

end FolderTag.Regex
