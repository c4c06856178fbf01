import StompGames.Java.Strings
import StompGames.Lib.SortedMap
import Mathlib.Data.Char
import Mathlib.Data.List.Lex

/-! `event.h` and `Game.h`: game events, and what the client keeps of a game for
each user who reported on it. -/
namespace StompGames.Client

/-- `Event` of `event.h`. The three maps are kept in the order of their keys, as `std::map` does.
-/
structure Event where
  teamAName : Text
  teamBName : Text
  name : Text
  time : Int
  gameUpdates : SortedMap Text Text
  teamAUpdates : SortedMap Text Text
  teamBUpdates : SortedMap Text Text
  description : Text

/-- `names_and_events`, what `parseEventsFile` returns. -/
structure NamesAndEvents where
  teamAName : Text
  teamBName : Text
  events : List Event

/-- A missing entry of one of the maps reads as its default value. -/
structure Game where
  name : Text
  updateByUserBefore : Text → List Event
  updateByUserAfter : Text → List Event
  halfTimeFalgs : Text → Bool
  isDone : Text → Bool

namespace Game

/-- `Game(name)`: no updates of anyone, and neither flag is set for any user. -/
def new (name : Text) : Game :=
  ⟨name, fun _ => [], fun _ => [], fun _ => false, fun _ => false⟩

/-- Whether an event sets a general game update to `false`. -/
def turnsOff (key : Text) (e : Event) : Bool := e.gameUpdates.find? key = some "false".toList

/-- The end of the game, then the half time, then the event itself. `sort` is
`std::sort` by time. -/
def addUpdate (sort : List Event → List Event) (user : Text) (e : Event) (g : Game) : Game :=
  let isDone := if turnsOff "active".toList e then Function.update g.isDone user true
    else g.isDone
  let halfTimeFalgs := if turnsOff "before halftime".toList e then
    Function.update g.halfTimeFalgs user true else g.halfTimeFalgs
  let g := { g with isDone := isDone, halfTimeFalgs := halfTimeFalgs }
  if !g.halfTimeFalgs user then
    let v := sort (g.updateByUserBefore user ++ [e])
    { g with updateByUserBefore := Function.update g.updateByUserBefore user v }
  else
    let v := sort (g.updateByUserAfter user ++ [e])
    { g with updateByUserAfter := Function.update g.updateByUserAfter user v }

/-- The event goes into one of the two lists of its user, and the rest of both stays. -/
theorem addUpdate_lists (sort : List Event → List Event) (user : Text) (e : Event) (g : Game) :
    ((g.addUpdate sort user e).updateByUserBefore =
        Function.update g.updateByUserBefore user (sort (g.updateByUserBefore user ++ [e])) ∧
      (g.addUpdate sort user e).updateByUserAfter = g.updateByUserAfter) ∨
    ((g.addUpdate sort user e).updateByUserBefore = g.updateByUserBefore ∧
      (g.addUpdate sort user e).updateByUserAfter =
        Function.update g.updateByUserAfter user (sort (g.updateByUserAfter user ++ [e]))) := by
  unfold addUpdate
  extract_lets isDone halfTimeFalgs marked before after
  cases hHalf : marked.halfTimeFalgs user
  · exact Or.inl ⟨rfl, rfl⟩
  · exact Or.inr ⟨rfl, rfl⟩

end Game
end StompGames.Client
