import Mbstf.Objects.Packager

/-!
# The object in flight

A packager sends one object at a time.  `m_queued` says that a transmission waits for
its completion, `m_queuedToi` and `m_queuedObjectId` say which.  The three are written
at different points of a round, and an exception may end the round between any two of
them.
-/

namespace Mbstf.Objects

open Runs

/-- A packager, and the transmissions accepted by the transmitter and not yet reported
complete, each a TOI and the id of the object that was sent. -/
structure Transmissions where
  packager : Packager
  pending : List (ℕ × String)

/-- The TOIs a step reports complete. -/
def Packager.Label.reported : Packager.Label → List ℕ
  | .add _ => []
  | .beginRound _ => []
  | .send _ _ _ => []
  | .popFront => []
  | .runOne tois => tois

/-- The TOI of the transmission a step starts, if the transmitter is reached. -/
def Packager.Label.accepted : Packager.Label → Option ℕ
  | .add _ => none
  | .beginRound _ => none
  | .send _ _ .throws => none
  | .send _ _ (.accepted toi) => some toi
  | .popFront => none
  | .runOne _ => none

namespace Transmissions

open Packager

/-- A new packager has sent nothing. -/
def start (destIpAddr : Option String) (packageItems : List PackageItem) : Transmissions where
  packager := .new destIpAddr packageItems
  pending := []

/-- What is pending after some TOIs were reported. -/
def report (pending : List (ℕ × String)) (tois : List ℕ) : List (ℕ × String) :=
  tois.foldl (fun pending toi => pending.eraseP fun sent => sent.1 = toi) pending

/-- What is pending after a step that led to the packager `next`. -/
def record (transmissions : Transmissions) (label : Label) (next : Packager) : Transmissions where
  packager := next
  pending :=
    report transmissions.pending label.reported ++
      label.accepted.toList.flatMap fun toi => next.inHand.map fun item => (toi, item.objectId)

/-- A step of the packager.  The transmitter reports what it accepted, once. -/
def step (transmissions : Transmissions) (label : Label) : Option Transmissions :=
  if label.reported.Subperm (transmissions.pending.map Prod.fst) then
    (transmissions.packager.step label).map (transmissions.record label)
  else none

/-- The flag is set if and only if one transmission is pending, the one with the TOI and
the object id kept beside the flag. -/
def Truthful (transmissions : Transmissions) : Prop :=
  transmissions.packager.queued = true ↔
    transmissions.pending =
      [(transmissions.packager.queuedToi, transmissions.packager.queuedObjectId)]

/-- The flag is right whenever the worker is between two rounds. -/
def TruthfulBetweenRounds (transmissions : Transmissions) : Prop :=
  transmissions.packager.worker = .roundStart → transmissions.Truthful

/-- The transmitter does not throw when it is handed an object. -/
def SendReturns (_ : Transmissions) : Label → Prop
  | .send (.ok _) _ .throws => False
  | _ => True

/-- The flag is right inside the rounds too, nothing is pending without it, and the
worker goes for an object only then. -/
structure Settled (transmissions : Transmissions) : Prop where
  flag : transmissions.Truthful
  idle : transmissions.packager.queued = false → transmissions.pending = []
  picked : ∀ item, transmissions.packager.worker = .picked item →
    transmissions.packager.queued = false

theorem settled_start (destIpAddr : Option String) (packageItems : List PackageItem) :
    (start destIpAddr packageItems).Settled where
  flag := by simp [Truthful, start, new]
  idle := by simp [start]
  picked := by
    intro item hworker
    cases hworker

/-! ## The steps -/

/-- A step after which the three members and what is pending are the same. -/
theorem Settled.of_same {transmissions next : Transmissions} (hsettled : transmissions.Settled)
    (hpending : next.pending = transmissions.pending)
    (hqueued : next.packager.queued = transmissions.packager.queued)
    (htoi : next.packager.queuedToi = transmissions.packager.queuedToi)
    (hobject : next.packager.queuedObjectId = transmissions.packager.queuedObjectId)
    (hpicked : ∀ item, next.packager.worker = .picked item → next.packager.queued = false) :
    next.Settled where
  flag := by
    rw [Truthful, hpending, hqueued, htoi, hobject]
    exact hsettled.flag
  idle := by
    rw [hpending, hqueued]
    exact hsettled.idle
  picked := hpicked

/-- A step after which nothing is pending, and the flag says so. -/
theorem settled_of_idle {transmissions : Transmissions}
    (hqueued : transmissions.packager.queued = false) (hpending : transmissions.pending = []) :
    transmissions.Settled where
  flag := by simp [Truthful, hqueued, hpending]
  idle := fun _ => hpending
  picked := fun _ _ => hqueued

theorem Settled.add {transmissions : Transmissions} (hsettled : transmissions.Settled)
    (item : PackageItem) :
    (transmissions.record (.add item) (transmissions.packager.add item)).Settled := by
  refine hsettled.of_same ?_ rfl rfl rfl hsettled.picked
  exact List.append_nil _

/-- The start of a round only moves the worker, and to an object only if none is queued. -/
theorem Settled.beginRound {transmissions : Transmissions} (hsettled : transmissions.Settled)
    (transmitterThrows : Bool) :
    (transmissions.record (.beginRound transmitterThrows)
      (transmissions.packager.beginRound transmitterThrows)).Settled := by
  have hpending : (transmissions.record (.beginRound transmitterThrows)
      (transmissions.packager.beginRound transmitterThrows)).pending = transmissions.pending :=
    List.append_nil _
  rcases transmissions.packager.beginRound_cases transmitterThrows with hsame | hcompleting |
    ⟨item, -, hidle, hpicked⟩
  · rw [hsame] at hpending ⊢
    exact hsettled.of_same hpending rfl rfl rfl hsettled.picked
  · rw [hcompleting] at hpending ⊢
    refine hsettled.of_same hpending rfl rfl rfl ?_
    intro item hworker
    cases hworker
  · rw [hpicked] at hpending ⊢
    exact hsettled.of_same hpending rfl rfl rfl fun _ _ => hidle

/-- An object is looked up and handed over while nothing is pending. -/
theorem Settled.send {transmissions : Transmissions} (hsettled : transmissions.Settled)
    {item : PackageItem} (object : Except OutOfRange Object) (secondsSinceEpoch : ℕ)
    (outcome : SendOutcome) (hworker : transmissions.packager.worker = .picked item)
    (hreturns : transmissions.SendReturns (.send object secondsSinceEpoch outcome)) :
    (transmissions.record (.send object secondsSinceEpoch outcome)
      (transmissions.packager.send item object secondsSinceEpoch outcome)).Settled := by
  have hqueued := hsettled.picked item hworker
  have hpending := hsettled.idle hqueued
  cases object with
  | error exception =>
      apply settled_of_idle
      · exact hqueued
      · cases outcome with
        | accepted toi => simp [record, report, Label.reported, Label.accepted, hpending,
            Packager.send, inHand]
        | throws => simp [record, report, Label.reported, Label.accepted, hpending]
  | ok object =>
      cases outcome with
      | accepted toi =>
          refine ⟨?_, ?_, ?_⟩
          · simp [Truthful, record, report, Label.reported, Label.accepted, hpending,
              Packager.send, inHand]
          · intro hnext
            simp [record, Packager.send] at hnext
          · intro other hother
            simp [record, Packager.send] at hother
      | throws => exact hreturns.elim

theorem Settled.popFront {transmissions : Transmissions} (hsettled : transmissions.Settled) :
    (transmissions.record .popFront transmissions.packager.popFront).Settled := by
  refine hsettled.of_same ?_ rfl rfl rfl ?_
  · exact List.append_nil _
  · intro item hworker
    cases hworker

/-- The transmitter reports nothing, or the one transmission it has accepted, and then
the callback recognises it. -/
theorem Settled.runOne {transmissions : Transmissions} (hsettled : transmissions.Settled)
    {tois : List ℕ} (hreported : tois.Subperm (transmissions.pending.map Prod.fst)) :
    (transmissions.record (.runOne tois) (transmissions.packager.runOne tois)).Settled := by
  by_cases hqueued : transmissions.packager.queued = true
  · have hpending := hsettled.flag.mp hqueued
    rw [hpending, List.map_cons, List.map_nil] at hreported
    rcases List.subperm_singleton_iff.mp hreported with rfl | rfl
    · refine hsettled.of_same ?_ rfl rfl rfl ?_
      · exact List.append_nil _
      · intro item hworker
        cases hworker
    · apply settled_of_idle
      · simp [record, Packager.runOne, onCompletion]
      · simp [record, report, Label.reported, Label.accepted, hpending]
  · rw [Bool.not_eq_true] at hqueued
    have hpending := hsettled.idle hqueued
    rw [hpending, List.map_nil, List.subperm_nil] at hreported
    subst hreported
    apply settled_of_idle
    · exact hqueued
    · simp [record, report, Label.reported, Label.accepted, hpending]

/-- A transmitter that throws leaves the flag set, with nothing pending. -/
theorem Settled.send_throws {transmissions : Transmissions} (hsettled : transmissions.Settled)
    {item : PackageItem} (object : Object) (secondsSinceEpoch : ℕ)
    (hworker : transmissions.packager.worker = .picked item) :
    ¬ (transmissions.record (.send (.ok object) secondsSinceEpoch .throws)
      (transmissions.packager.send item (.ok object) secondsSinceEpoch
        .throws)).TruthfulBetweenRounds := by
  have hpending := hsettled.idle (hsettled.picked item hworker)
  intro hbetween
  have hflag := (hbetween rfl).mp rfl
  simp [record, report, Label.reported, Label.accepted, hpending] at hflag

/-- The steps, taken apart. -/
theorem step_eq_some {transmissions next : Transmissions} {label : Label}
    (hstep : transmissions.step label = some next) :
    label.reported.Subperm (transmissions.pending.map Prod.fst) ∧
      ∃ packager, transmissions.packager.step label = some packager ∧
        transmissions.record label packager = next := by
  rw [Transmissions.step, Option.ite_none_right_eq_some] at hstep
  exact ⟨hstep.1, Option.map_eq_some_iff.mp hstep.2⟩

theorem Settled.step {transmissions next : Transmissions} {label : Label}
    (hsettled : transmissions.Settled) (hreturns : transmissions.SendReturns label)
    (hstep : transmissions.step label = some next) : next.Settled := by
  obtain ⟨hreported, packager, hpackager, rfl⟩ := step_eq_some hstep
  rcases Packager.step_cases hpackager with ⟨item, rfl, rfl⟩ |
    ⟨transmitterThrows, rfl, hworker, rfl⟩ |
    ⟨item, object, secondsSinceEpoch, outcome, rfl, hworker, rfl⟩ | ⟨item, rfl, hworker, rfl⟩ |
    ⟨tois, rfl, hworker, rfl⟩
  · exact hsettled.add item
  · exact hsettled.beginRound transmitterThrows
  · exact hsettled.send object secondsSinceEpoch outcome hworker hreturns
  · exact hsettled.popFront
  · exact hsettled.runOne hreported

theorem Settled.step_throws {transmissions next : Transmissions} {label : Label}
    (hsettled : transmissions.Settled) (hthrows : ¬ transmissions.SendReturns label)
    (hstep : transmissions.step label = some next) : ¬ next.TruthfulBetweenRounds := by
  obtain ⟨-, packager, hpackager, rfl⟩ := step_eq_some hstep
  rcases Packager.step_cases hpackager with ⟨item, rfl, rfl⟩ |
    ⟨transmitterThrows, rfl, hworker, rfl⟩ |
    ⟨item, object, secondsSinceEpoch, outcome, rfl, hworker, rfl⟩ | ⟨item, rfl, hworker, rfl⟩ |
    ⟨tois, rfl, hworker, rfl⟩
  · exact (hthrows trivial).elim
  · exact (hthrows trivial).elim
  · cases object with
    | error exception => exact (hthrows trivial).elim
    | ok object =>
        cases outcome with
        | accepted toi => exact (hthrows trivial).elim
        | throws => exact hsettled.send_throws object secondsSinceEpoch hworker
  · exact (hthrows trivial).elim
  · exact (hthrows trivial).elim

/-- For any initial list and any interleaving of adds with the rounds of the worker, the
flag is right between all rounds if and only if the transmitter never throws when it is
handed an object. -/
theorem truthful_throughout_iff (destIpAddr : Option String) (packageItems : List PackageItem)
    (labels : List Label) :
    Throughout step TruthfulBetweenRounds (start destIpAddr packageItems) labels ↔
      Guarded step SendReturns (start destIpAddr packageItems) labels := by
  have hweaken : ∀ transmissions : Transmissions,
      transmissions.Settled → transmissions.TruthfulBetweenRounds :=
    fun _ hsettled _ => hsettled.flag
  exact throughout_iff_guarded_of_strong hweaken
    (fun _ _ _ hsettled hreturns hstep => hsettled.step hreturns hstep)
    (fun _ _ _ hsettled hthrows hstep => hsettled.step_throws hthrows hstep)
    (settled_start destIpAddr packageItems)

/-- After the transmitter has thrown, the flag is set, with nothing pending. -/
theorem flag_left_set :
    ∃ transmissions,
      run step (start (some "239.0.0.1") [⟨"1", none⟩])
        [.beginRound false,
          .send (.ok ([7], .new 100 "1" "text/plain" "http://example.com/object1"
            "http://example.com/object1" "acq1" 90 none none none)) 0 .throws] =
        some transmissions ∧
      transmissions.packager.worker = .roundStart ∧
      transmissions.packager.queued = true ∧ transmissions.pending = [] ∧
      ¬ transmissions.TruthfulBetweenRounds := by
  refine ⟨_, rfl, rfl, rfl, rfl, ?_⟩
  intro hbetween
  exact absurd ((hbetween rfl).mp rfl) (by decide)

end Transmissions

end Mbstf.Objects
