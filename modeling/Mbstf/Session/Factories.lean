import Mbstf.Core.PriorityOrder
import Mbstf.Session.Controllers

/-!
# Factories

Controllers and manifest handlers register constructors with a priority while the program
is initialised, in an order that is not specified.  The factories keep them by priority
and try them in that order; the one for manifest handlers has a list for each content type
and falls back on the list for none.
-/

namespace Mbstf.Session

open Mbstf.Objects Mbstf.PriorityOrder

/-! ## Controllers -/

/-- `ControllerFactoryConstructor`. -/
structure ControllerFactoryConstructor where
  priority : ℕ
  makeController : Construct Controller

namespace ControllerFactory

/-- `registerController(ControllerFactoryConstructor*)`. -/
def registerController (constructors : List ControllerFactoryConstructor)
    (controllerConstructor : ControllerFactoryConstructor) : List ControllerFactoryConstructor :=
  keep ControllerFactoryConstructor.priority constructors controllerConstructor

/-- The constructors after a sequence of registrations. -/
def registered (registrations : List ControllerFactoryConstructor) :
    List ControllerFactoryConstructor :=
  registrations.foldl registerController []

/-- `makeController(DistributionSession&)`. -/
def makeController (constructors : List ControllerFactoryConstructor) (session : DistSession) :
    Except StdException (Option Controller) × DistSession :=
  tryConstructors (constructors.map ControllerFactoryConstructor.makeController) session

/-- A constructor as an attempt on the session. -/
def attempt (controllerConstructor : ControllerFactoryConstructor) :
    Attempt DistSession Controller StdException :=
  controllerConstructor.makeController.exec

/-- The two controllers of the program, in whichever order they register. -/
theorem constructors_eq_registered (surroundings : Surroundings) :
    let list : ControllerFactoryConstructor := ⟨100, objectListController surroundings⟩
    let streaming : ControllerFactoryConstructor := ⟨50, objectStreamingController surroundings⟩
    constructors surroundings =
        (registered [list, streaming]).map ControllerFactoryConstructor.makeController ∧
      constructors surroundings =
        (registered [streaming, list]).map ControllerFactoryConstructor.makeController := by
  intro list streaming
  have hkept : registered [list, streaming] = [list, streaming] := by
    simp [registered, registerController, keep, lowerBound, list, streaming]
  have hother : registered [streaming, list] = [list, streaming] := by
    simp [registered, registerController, keep, lowerBound, list, streaming]
  rw [hkept, hother]
  exact ⟨rfl, rfl⟩

end ControllerFactory

/-! ## Manifest handlers -/

/-- `ManifestHandlerConstructor`, for a type of handlers and the world they are made in:
the controller and what it refers to. -/
structure ManifestHandlerConstructor (World Handler : Type*) where
  priority : ℕ
  makeManifestHandler : Object → Bool → Attempt World Handler StdException

namespace ManifestHandlerFactory

variable {World Handler : Type*}

/-- `constructorsByContentType()`. -/
abbrev ConstructorsByContentType (World Handler : Type*) :=
  Std.ExtTreeMap String (List (ManifestHandlerConstructor World Handler))

/-- The list of a content type; there is none for one that nothing was registered for. -/
def constructorsFor (constructors : ConstructorsByContentType World Handler)
    (contentType : String) : List (ManifestHandlerConstructor World Handler) :=
  constructors[contentType]?.getD []

/-- `registerManifestHandler(const std::string&, ManifestHandlerConstructor*)`. -/
def registerManifestHandler (constructors : ConstructorsByContentType World Handler)
    (registration : String × ManifestHandlerConstructor World Handler) :
    ConstructorsByContentType World Handler :=
  constructors.insert registration.1
    (keep ManifestHandlerConstructor.priority (constructorsFor constructors registration.1)
      registration.2)

/-- The constructors after a sequence of registrations. -/
def registered (registrations : List (String × ManifestHandlerConstructor World Handler)) :
    ConstructorsByContentType World Handler :=
  registrations.foldl registerManifestHandler ∅

/-- `throw ex` of a `std::runtime_error&` throws a copy of that class, whatever class the
exception was of. -/
def copied (exception : StdException) : StdException := ⟨.runtimeError, exception.what⟩

/-- The constructors of a media type as attempts at an object. -/
def attemptsFor (constructors : ConstructorsByContentType World Handler) (object : Object)
    (pullDistribution : Bool) (mediaType : String) : List (Attempt World Handler StdException) :=
  (constructorsFor constructors mediaType).map fun constructor =>
    constructor.makeManifestHandler object pullDistribution

/-- The loop of `makeManifestHandler`, for one media type after another. -/
def tryMediaTypes (constructors : ConstructorsByContentType World Handler) (object : Object)
    (pullDistribution : Bool) (mediaType : String) (world : World) :
    Except StdException (Option Handler) × World :=
  match search StdException.isRuntimeError
      (attemptsFor constructors object pullDistribution mediaType) world with
  | (.ok (some handler), after) => (.ok (some handler), after)
  | (.error exception, after) => (.error (copied exception), after)
  | (.ok none, after) =>
      if mediaType = "" then (.ok none, after)
      else tryMediaTypes constructors object pullDistribution "" after
termination_by mediaType.length
decreasing_by
  rename_i hmediaType
  exact Nat.pos_of_ne_zero fun hzero => hmediaType (String.length_eq_zero_iff.mp hzero)

/-- `makeManifestHandler(const ObjectStore::Object&, ObjectController*, bool)`. -/
def makeManifestHandler (constructors : ConstructorsByContentType World Handler)
    (object : Object) (pullDistribution : Bool) (world : World) :
    Except StdException (Option Handler) × World :=
  tryMediaTypes constructors object pullDistribution object.2.mediaType world

end ManifestHandlerFactory

/-! ## Selection -/

section

variable {World Handler : Type}

end

end Mbstf.Session
