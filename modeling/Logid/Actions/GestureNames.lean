import Logid.Actions.Entries

/-!
# The names of directions in a configuration

How entries come into the map of the gestures: those of the file under the names that stand there
(`config_io<map>::get`, `config/types.h`), those of `SetGesture` under the names of `fromDirection`.
-/

namespace Logid.Actions

/-- An insertion into the gestures of an action. -/
inductive GestureInsertion where
  | fromFile (name : String) (gesture : Config.Gesture)
  | setGesture (direction type : String)

namespace GestureAction

/-- The gestures, none as long as nothing has made the map. -/
def gesturesOf (config : Config.GestureAction) : SortedMap String Config.Gesture Config.lessCaseless :=
  config.gestures.getD .empty

def insert (config : Config.GestureAction) : GestureInsertion → Config.GestureAction
  | .fromFile name gesture => { gestures := some ((gesturesOf config).emplace name gesture) }
  | .setGesture direction type => (setGesture config direction type).1

/-- The entry under a name, in whatever case either is written. -/
def gestureNamed (config : Config.GestureAction) (name : String) : Option Config.Gesture :=
  (gesturesOf config).find? name

/-- What a type makes of the entry of a direction; a type that is not known leaves it. -/
def gestureOfType (d : Direction) (type : String) (gesture : Config.Gesture) : Config.Gesture :=
  match Gesture.ofType type with
  | some g => if d = .none then Gesture.withThreshold (some 0) g else g
  | none => gesture

/-- What is found after an insertion under any spelling of its name: what a file brings where there was
nothing, and what the type makes of the entry of the direction, which is new where there was none. The
other entries stay. -/
def Inserted (config config' : Config.GestureAction) : GestureInsertion → Prop
  | .fromFile name gesture => ∀ k, gestureNamed config' k =
      if toLower k = toLower name then some ((gestureNamed config name).getD gesture)
      else gestureNamed config k
  | .setGesture direction type =>
    match Direction.ofName direction with
    | some d => ∀ k, gestureNamed config' k =
        if toLower k = d.name then
          some (gestureOfType d type ((gestureNamed config d.name).getD (.none {})))
        else gestureNamed config k
    | none => config' = config

end GestureAction

end Logid.Actions
