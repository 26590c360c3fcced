import SessionHandshake.Text.Basic

namespace SessionHandshake

/-!
# Multiples by repeated doubling

A multiple of an element under any addition, as the points of a curve need it.
-/

/--
The sum of so many copies of an element.

The copies are halved by doubling the element; an odd one out is added last.
-/
def multiple {Element : Type}
    (add : Element → Element → Element)
    (zero : Element)
    (count : Nat)
    (element : Element) :
    Element :=
  if _isZero : count = 0 then
    zero
  else
    let even := multiple add zero (count / 2) (add element element)
    if count % 2 = 1 then
      add even element
    else
      even
termination_by count
decreasing_by omega

end SessionHandshake
