/-
**What passes between a resolver, its builder and its log.**

A recorded resolver writes down what it tells its log and what its builder is asked and answers. The
record of a header is of one of three kinds, and the record of several headers is that of each of
them, one after the other.

### Exchanges

`Exchange` are the three kinds of record, each with its result. If the header asks for nothing, the
builder is not asked either, and the error has the reason for that. Otherwise the builder is asked
once, for what the header asks for, and its answer is the result, wrapped if it is an error. The log
is told of the header first, and of the error last if there is one; and the error keeps the header.

### The recorded resolver

* `Resolver.exchange`: resolving a header together with its record.
* `Resolver.run_resolve_recorded`, `Resolver.fst_exchange`: this is what the recorded resolver
  gives, and without the record it is what the resolver gives.
* `Resolver.exchange_checked`: it is one of the three.
* `Resolver.resolve_exchanges`: all of it together, for any number of headers.

**The proof is by running the recorder for one step.** Each message and each question goes on to the
log or the builder itself and adds one event behind the earlier ones, whatever these are. So the
record of one header is an earlier one for the next, and the induction on the headers is for any
earlier record. The laws of the monad are needed to put the steps together, and nothing is known of
what the log and the builder do.
-/

import Georeference.Header.Recording
import Mathlib.Tactic.Choose

namespace Georeference

/-- What the builder is asked for a request. -/
def Request.call : Request → BuilderCall
  | .utm datum zone hemisphere => .fromProj4 (zoneText datum zone hemisphere)
  | .proj4 text => .fromProj4 text
  | .epsg code => .fromEpsg code

/-! ### The record of a header -/

/-- What the log is told first about a header. -/
def greeting (header : String) : LogEntry :=
  .info ("Parsing SRS header: " ++ header)

/-- **The result and the record of a header.** -/
inductive Exchange {System : Type} (header : String) :
    Except HeaderError System → List (Event System) → Prop
  | unread {fault : HeaderFault} {error : HeaderError} (unread : classify header = .error fault)
      (kept : error.header = header) (reason : error.reason = fault.message)
      (unbuilt : error.buildError? = none) :
      Exchange header (.error error) [.told (greeting header), .told (.error error.details)]
  | built {request : Request} {system : System} (asked : classify header = .ok request) :
      Exchange header (.ok system) [.told (greeting header), .asked request.call (.ok system)]
  | unbuilt {request : Request} {cause : BuildError} {error : HeaderError}
      (asked : classify header = .ok request) (kept : error.header = header)
      (reason : error.reason = cause.message) (blamed : error.buildError? = some cause) :
      Exchange header (.error error)
        [.told (greeting header), .asked request.call (.error cause), .told (.error error.details)]

namespace Resolver

variable {m : Type → Type} [Monad m] {System : Type} (resolver : Resolver m System)

/-- What becomes of the answer of the builder, with its record. -/
def conclude (header : String) (call : BuilderCall) (answer : Except BuildError System) :
    m (Except HeaderError System × List (Event System)) :=
  match answer with
  | .ok system => pure (.ok system, [.told (greeting header), .asked call (.ok system)])
  | .error cause => do
    let error : HeaderError := ⟨header, .unbuilt cause⟩
    resolver.logger.error error.details
    pure (.error error,
      [.told (greeting header), .asked call (.error cause), .told (.error error.details)])

/-- Resolves a header, and gives its record. -/
def exchange (header : String) : m (Except HeaderError System × List (Event System)) := do
  resolver.logger.info ("Parsing SRS header: " ++ header)
  match classify header with
  | .error fault => do
    let error : HeaderError := ⟨header, .unread fault⟩
    resolver.logger.error error.details
    pure (.error error, [.told (greeting header), .told (.error error.details)])
  | .ok request => do
    let answer ← resolver.build request
    resolver.conclude header request.call answer

theorem build_recorded (request : Request) :
    resolver.recorded.build request = request.call.recorded (resolver.build request) := by
  cases request with
  | utm datum zone hemisphere => rfl
  | proj4 text => rfl
  | epsg code => rfl

variable [LawfulMonad m]

/-! ### One step of the recorded resolver -/

theorem run_info_recorded (text : String) (earlier : List (Event System)) :
    (resolver.recorded.logger.info text).run earlier = (do
      resolver.logger.info text
      pure ((), earlier ++ [.told (.info text)])) := by
  show ((monadLift (resolver.logger.info text) >>= fun _ =>
    modify (· ++ [.told (.info text)]) : StateT (List (Event System)) m Unit)).run earlier = _
  simp

theorem run_error_recorded (text : String) (earlier : List (Event System)) :
    (resolver.recorded.logger.error text).run earlier = (do
      resolver.logger.error text
      pure ((), earlier ++ [.told (.error text)])) := by
  show ((monadLift (resolver.logger.error text) >>= fun _ =>
    modify (· ++ [.told (.error text)]) : StateT (List (Event System)) m Unit)).run earlier = _
  simp

theorem run_build_recorded (request : Request) (earlier : List (Event System)) :
    (resolver.recorded.build request).run earlier = (do
      let answer ← resolver.build request
      pure (answer, earlier ++ [.asked request.call answer])) := by
  rw [build_recorded, BuilderCall.recorded]
  simp

/-- **The recorded resolver** adds what is exchanged to the earlier record. -/
theorem run_resolve_recorded (header : String) (earlier : List (Event System)) :
    (resolver.recorded.resolve header).run earlier =
      (fun (result, events) => (result, earlier ++ events)) <$> resolver.exchange header := by
  unfold resolve attempt exchange
  cases asked : classify header with
  | error fault =>
    simp [run_info_recorded, run_error_recorded, greeting]
  | ok request =>
    simp only [StateT.run_bind, run_info_recorded, run_build_recorded, bind_assoc, pure_bind,
      map_bind]
    refine bind_congr fun _ => bind_congr fun answer => ?_
    cases answer with
    | error cause => simp [conclude, run_error_recorded, greeting]
    | ok system => simp [conclude, greeting]

/-- **Without the record** an exchange is what the resolver does. -/
theorem fst_exchange (header : String) :
    Prod.fst <$> resolver.exchange header = resolver.resolve header := by
  unfold resolve attempt exchange
  cases asked : classify header with
  | error fault => simp
  | ok request =>
    simp only [map_bind, bind_assoc]
    refine bind_congr fun _ => bind_congr fun answer => ?_
    cases answer with
    | error cause => simp [conclude]
    | ok system => simp [conclude]

/-! ### The three kinds of record -/

theorem conclude_checked {header : String} {request : Request}
    (asked : classify header = .ok request) (answer : Except BuildError System) :
    ∃ checked : m {pair : Except HeaderError System × List (Event System) //
        Exchange header pair.1 pair.2},
      resolver.conclude header request.call answer = Subtype.val <$> checked := by
  cases answer with
  | ok system =>
    refine ⟨pure ⟨(.ok system, _), .built asked⟩, ?_⟩
    rw [map_pure]
    rfl
  | error cause =>
    let error : HeaderError := ⟨header, .unbuilt cause⟩
    refine ⟨do
      resolver.logger.error error.details
      pure ⟨(.error error, _), .unbuilt asked rfl rfl rfl⟩, ?_⟩
    simp only [map_bind, map_pure]
    rfl

/-- **An exchange over a header** is of one of the three kinds. -/
theorem exchange_checked (header : String) :
    ∃ checked : m {pair : Except HeaderError System × List (Event System) //
        Exchange header pair.1 pair.2},
      resolver.exchange header = Subtype.val <$> checked := by
  unfold exchange
  cases asked : classify header with
  | error fault =>
    let error : HeaderError := ⟨header, .unread fault⟩
    refine ⟨do
      resolver.logger.info ("Parsing SRS header: " ++ header)
      resolver.logger.error error.details
      pure ⟨(.error error, _), .unread asked rfl rfl rfl⟩, ?_⟩
    simp only [map_bind, map_pure]
    rfl
  | ok request =>
    choose checked same using conclude_checked resolver asked
    refine ⟨do
      resolver.logger.info ("Parsing SRS header: " ++ header)
      let answer ← resolver.build request
      checked answer, ?_⟩
    simp only [map_bind, same]

/-! ### Several headers -/

/-- **The record of several headers** is that of each of them. -/
theorem run_mapM_recorded (headers : List String) (earlier : List (Event System)) :
    (headers.mapM resolver.recorded.resolve).run earlier =
      (fun exchanges => (exchanges.map Prod.fst, earlier ++ (exchanges.map Prod.snd).flatten)) <$>
        headers.mapM resolver.exchange := by
  induction headers generalizing earlier with
  | nil => simp
  | cons header headers ih =>
    simp only [List.mapM_cons, StateT.run_bind, run_resolve_recorded, ih, bind_map_left, map_bind,
      StateT.run_pure, map_pure, List.map_cons, List.flatten_cons, List.append_assoc]

theorem fst_mapM_exchange (headers : List String) :
    List.map Prod.fst <$> headers.mapM resolver.exchange = headers.mapM resolver.resolve := by
  induction headers with
  | nil => simp
  | cons header headers ih =>
    simp only [List.mapM_cons, ← ih, ← fst_exchange, bind_map_left, map_bind, map_pure,
      List.map_cons]

/-- **A resolver is a faithful front end** of its builder and its log. -/
theorem resolve_exchanges :
    (∀ header, ∃ checked : m {pair : Except HeaderError System × List (Event System) //
        Exchange header pair.1 pair.2},
      (resolver.recorded.resolve header).run [] = Subtype.val <$> checked ∧
        resolver.resolve header = (fun pair => pair.1.1) <$> checked) ∧
    ∀ (headers : List String) (earlier : List (Event System)),
      (headers.mapM resolver.recorded.resolve).run earlier =
        (fun alone => (alone.map Prod.fst, earlier ++ (alone.map Prod.snd).flatten)) <$>
          (headers.mapM fun header => (resolver.recorded.resolve header).run []) ∧
      headers.mapM resolver.resolve =
        Prod.fst <$> (headers.mapM resolver.recorded.resolve).run earlier := by
  have alone : ∀ header, (resolver.recorded.resolve header).run [] = resolver.exchange header := by
    intro header
    rw [run_resolve_recorded]
    exact id_map _
  constructor
  · intro header
    obtain ⟨checked, same⟩ := resolver.exchange_checked header
    refine ⟨checked, (alone header).trans same, ?_⟩
    rw [← fst_exchange, same, Functor.map_map]
  · intro headers earlier
    simp only [alone]
    refine ⟨resolver.run_mapM_recorded headers earlier, ?_⟩
    rw [run_mapM_recorded, Functor.map_map, ← fst_mapM_exchange]

/-- A builder that answers its first call only, and three headers. -/
theorem resolve_exchanges_counted :
    let answering (text : String) : StateM Nat (Except BuildError String) := fun calls =>
      (if calls = 0 then .ok text else .error (.codeText text), calls + 1)
    let resolver : Resolver (StateM Nat) String := ⟨⟨answering, answering⟩, .silent _⟩
    let refused : HeaderError := ⟨" bad", .unread .unrecognized⟩
    let second : HeaderError := ⟨"epsg:07", .unbuilt (.codeText "07")⟩
    ((["'+proj=x'", " bad", "epsg:07"].mapM resolver.recorded.resolve).run []).run 0 =
      (([.ok "+proj=x", .error refused, .error second],
        [.told (greeting "'+proj=x'"), .asked (.fromProj4 "+proj=x") (.ok "+proj=x"),
          .told (greeting " bad"), .told (.error refused.details),
          .told (greeting "epsg:07"), .asked (.fromEpsg "07") (.error (.codeText "07")),
          .told (.error second.details)]), 2) := by
  intro answering resolver refused second
  rw [((resolve_exchanges resolver).2 _ []).1]
  rfl

end Resolver

end Georeference
