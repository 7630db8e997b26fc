import Roadway.Scalar

/-!
# Plane vectors

Points of the plane and displacements between them share one type. The abscissa
points east and the ordinate north, so that turning left is turning from the
first towards the second.
-/
namespace Roadway

@[ext] structure Vec2 (α : Type) where
  x : α
  y : α
  deriving DecidableEq, Repr

namespace Vec2
variable {α : Type} [Scalar α]

instance : Add (Vec2 α) := ⟨fun a b => ⟨a.x + b.x, a.y + b.y⟩⟩
instance : Sub (Vec2 α) := ⟨fun a b => ⟨a.x - b.x, a.y - b.y⟩⟩

@[simp] theorem add_x (a b : Vec2 α) : (a + b).x = a.x + b.x := rfl
@[simp] theorem add_y (a b : Vec2 α) : (a + b).y = a.y + b.y := rfl
@[simp] theorem sub_x (a b : Vec2 α) : (a - b).x = a.x - b.x := rfl
@[simp] theorem sub_y (a b : Vec2 α) : (a - b).y = a.y - b.y := rfl

def origin : Vec2 α := ⟨0.0, 0.0⟩

def scale (a : Vec2 α) (factor : α) : Vec2 α := ⟨a.x * factor, a.y * factor⟩

def divide (a : Vec2 α) (divisor : α) : Vec2 α := ⟨a.x / divisor, a.y / divisor⟩

def dot (a b : Vec2 α) : α := a.x * b.x + a.y * b.y

/-- Positive when `b` lies to the left of `a`. -/
def cross (a b : Vec2 α) : α := a.x * b.y - a.y * b.x

def normSq (a : Vec2 α) : α := a.dot a

def norm (a : Vec2 α) : α := Scalar.sqrt a.normSq

/-- The vector of length one in the same direction. -/
def unit (a : Vec2 α) : Vec2 α := a.divide a.norm

/-- The vector turned by a right angle to the left. -/
def leftNormal (a : Vec2 α) : Vec2 α := ⟨-a.y, a.x⟩

def isFinite (a : Vec2 α) : Bool := Scalar.isFinite a.x && Scalar.isFinite a.y

end Vec2
end Roadway
