import Reconciler.Proofs.RecordDecoding
import Reconciler.Proofs.TextRendering
import Reconciler.VirtualMachine.Codec

/-!
# The format of virtual machines

What is written of a machine's spec and status is read again as it was, in memory and as
text, whatever parts are missing or empty.  For that every part that is left out when it is
written must be read as its default, at each level: in specs and statuses, and in the taints,
conditions and addresses nested in them.
-/

namespace Reconciler

namespace VirtualMachine

open Json Json.Decoder

/-! ## Taints and specs -/

theorem Taint.inverts : Decoder.Inverts Taint.read Taint.toJson := by
  intro document taint shows
  refine read_record ?_ ?_ shows ?_
  · exact .cons (.required text_inverts _) (.cons (.optional text_inverts nofun _)
      (.cons (.required text_inverts _) .nil))
  · simp
  · intro fields carries
    simp only [List.forall_mem_cons] at carries
    obtain ⟨key, value, effect, -⟩ := carries
    simp only [Fields.required_of_carries text_inverts key,
      Fields.optional_of_carries text_inverts nofun value,
      Fields.required_of_carries text_inverts effect]
    rfl

theorem eq_of_mem_writtenFlag (flag : Bool) :
    ∀ json ∈ (if flag then some (Json.boolean true) else none), json = .boolean flag := by
  intro json written
  cases flag with
  | false => cases written
  | true => exact (Option.some.inj written).symm

theorem eq_of_mem_writtenTaints (taints : List Taint) :
    ∀ json ∈ (if taints.isEmpty then none else some (Json.list (taints.map Taint.toJson))),
      json = .list (taints.map Taint.toJson) := by
  intro json written
  split at written
  · cases written
  · exact (Option.some.inj written).symm

theorem Spec.inverts : Decoder.Inverts Spec.read Spec.toJson := by
  intro document spec shows
  have flag := eq_of_mem_writtenFlag spec.unschedulable
  have listed := eq_of_mem_writtenTaints spec.taints
  refine read_record ?_ ?_ shows ?_
  · refine .cons (.optional text_inverts nofun _) (.cons (.optional text_inverts nofun _)
      (.cons (.of_check rfl boolean_inverts ?_)
        (.cons (.of_check rfl (listOf_inverts Taint.inverts) ?_) .nil)))
    · exact fun json written => ⟨_, (flag json written).symm⟩
    · exact fun json written => ⟨_, (listed json written).symm⟩
  · simp
  · intro fields carries
    simp only [List.forall_mem_cons] at carries
    obtain ⟨podCidr, providerId, unschedulable, taints, -⟩ := carries
    have flagRead : fields.defaulted "unschedulable" boolean false = .ok spec.unschedulable :=
      Fields.defaulted_of_carries boolean_inverts flag (by simp) unschedulable
    have taintsRead : fields.defaulted "taints" (listOf Taint.read) [] = .ok spec.taints :=
      Fields.defaulted_of_carries (listOf_inverts Taint.inverts) listed (by simp) taints
    simp only [Fields.optional_of_carries text_inverts nofun podCidr,
      Fields.optional_of_carries text_inverts nofun providerId, flagRead, taintsRead]
    rfl

/-! ## Conditions, addresses and statuses -/

theorem Condition.inverts : Decoder.Inverts Condition.read Condition.toJson := by
  intro document condition shows
  refine read_record ?_ ?_ shows ?_
  · exact .cons (.required text_inverts _) (.cons (.required text_inverts _)
      (.cons (.optional text_inverts nofun _) (.cons (.optional text_inverts nofun _)
        (.cons (.optional text_inverts nofun _) (.cons (.optional text_inverts nofun _) .nil)))))
  · simp
  · intro fields carries
    simp only [List.forall_mem_cons] at carries
    obtain ⟨kind, status, heartbeat, transition, reason, message, -⟩ := carries
    simp only [Fields.required_of_carries text_inverts kind,
      Fields.required_of_carries text_inverts status,
      Fields.optional_of_carries text_inverts nofun heartbeat,
      Fields.optional_of_carries text_inverts nofun transition,
      Fields.optional_of_carries text_inverts nofun reason,
      Fields.optional_of_carries text_inverts nofun message]
    rfl

theorem Address.toJson_eq (address : Address) : address.toJson = Json.recordOfPresent
    [("type", some (.text address.kind)), ("address", some (.text address.address))] :=
  rfl

theorem Address.inverts : Decoder.Inverts Address.read Address.toJson := by
  intro document address shows
  rw [Address.toJson_eq] at shows
  refine read_record ?_ ?_ shows ?_
  · exact .cons (.required text_inverts _) (.cons (.required text_inverts _) .nil)
  · simp
  · intro fields carries
    simp only [List.forall_mem_cons] at carries
    obtain ⟨kind, address, -⟩ := carries
    simp only [Fields.required_of_carries text_inverts kind,
      Fields.required_of_carries text_inverts address]
    rfl

theorem Status.inverts : Decoder.Inverts Status.read Status.toJson := by
  intro document status shows
  have conditions := listOf_inverts Condition.inverts
  have addresses := listOf_inverts Address.inverts
  refine read_record ?_ ?_ shows ?_
  · exact .cons (.optional textFields_inverts nofun _) (.cons (.optional textFields_inverts nofun _)
      (.cons (.optional text_inverts nofun _) (.cons (.optional conditions nofun _)
        (.cons (.optional addresses nofun _) .nil))))
  · simp
  · intro fields carries
    simp only [List.forall_mem_cons] at carries
    obtain ⟨capacity, allocatable, phase, conditionsCarried, addressesCarried, -⟩ := carries
    simp only [Fields.optional_of_carries textFields_inverts nofun capacity,
      Fields.optional_of_carries textFields_inverts nofun allocatable,
      Fields.optional_of_carries text_inverts nofun phase,
      Fields.optional_of_carries conditions nofun conditionsCarried,
      Fields.optional_of_carries addresses nofun addressesCarried]
    rfl

/-! ## What is written -/

theorem Taint.tidy (taint : Taint) : Tidy 1 taint.toJson := by
  refine tidy_recordOfPresent ?_
  simp only [List.forall_mem_cons, Option.mem_some_iff, forall_eq', Option.forall_mem_map]
  exact ⟨.text _, fun _ _ => .text _, .text _, List.forall_mem_nil _⟩

theorem Spec.tidy (spec : Spec) : Tidy 3 spec.toJson := by
  refine tidy_recordOfPresent ?_
  simp only [List.forall_mem_cons, Option.forall_mem_map]
  refine ⟨fun _ _ => .text _, fun _ _ => .text _, ?_, ?_, List.forall_mem_nil _⟩
  · intro json written
    split at written
    · exact Option.some.inj written ▸ .boolean true
    · cases written
  · intro json written
    split at written
    · cases written
    · exact Option.some.inj written ▸ tidy_list Taint.tidy

theorem Condition.tidy (condition : Condition) : Tidy 1 condition.toJson := by
  refine tidy_recordOfPresent ?_
  simp only [List.forall_mem_cons, Option.mem_some_iff, forall_eq', Option.forall_mem_map]
  exact ⟨.text _, .text _, fun _ _ => .text _, fun _ _ => .text _, fun _ _ => .text _,
    fun _ _ => .text _, List.forall_mem_nil _⟩

theorem Address.tidy (address : Address) : Tidy 1 address.toJson := by
  rw [Address.toJson_eq]
  refine tidy_recordOfPresent ?_
  simp only [List.forall_mem_cons, Option.mem_some_iff, forall_eq']
  exact ⟨.text _, .text _, List.forall_mem_nil _⟩

theorem Status.tidy (status : Status) : Tidy 3 status.toJson := by
  refine tidy_recordOfPresent ?_
  simp only [List.forall_mem_cons, Option.forall_mem_map]
  exact ⟨fun _ _ => tidy_textFields _, fun _ _ => tidy_textFields _, fun _ _ => .text _,
    fun _ _ => tidy_list Condition.tidy, fun _ _ => tidy_list Address.tidy, List.forall_mem_nil _⟩

/-! ## What is left out

The fields of a record stand in the order of their declaration.  With each stands the value
that counts as left out, if there is one.
-/

def Taint.blanks : List (String × Option Json) :=
  [("key", none), ("value", some .null), ("effect", none)]

def Spec.blanks : List (String × Option Json) :=
  [("podCIDR", some .null), ("providerID", some .null), ("unschedulable", some (.boolean false)),
    ("taints", some (.list []))]

def Condition.blanks : List (String × Option Json) :=
  [("type", none), ("status", none), ("lastHeartbeatTime", some .null),
    ("lastTransitionTime", some .null), ("reason", some .null), ("message", some .null)]

def Address.blanks : List (String × Option Json) :=
  [("type", none), ("address", none)]

def Status.blanks : List (String × Option Json) :=
  [("capacity", some .null), ("allocatable", some .null), ("phase", some .null),
    ("conditions", some .null), ("addresses", some .null)]

theorem Taint.normalises : Decoder.Normalises Taint.read Taint.toJson Taint.blanks := by
  refine Decoder.normalises_of_fields (by decide) (fun _ => rfl) (fun _ => rfl) ?_
  intro document taint read
  obtain ⟨fields, opened, read⟩ := bind_eq_ok_iff.mp read
  obtain ⟨key, keyRead, read⟩ := bind_eq_ok_iff.mp read
  obtain ⟨value, valueRead, read⟩ := bind_eq_ok_iff.mp read
  obtain ⟨effect, effectRead, read⟩ := bind_eq_ok_iff.mp read
  cases read
  refine ⟨_, _, fields, opened, rfl, ?_⟩
  exact .cons (.required text_keepsFlat keyRead) (.cons (.optional text_keepsFlat valueRead)
    (.cons (.required text_keepsFlat effectRead) .nil))

theorem Spec.normalises : Decoder.Normalises Spec.read Spec.toJson Spec.blanks := by
  refine Decoder.normalises_of_fields (by decide) (fun _ => rfl) (fun _ => rfl) ?_
  intro document spec read
  obtain ⟨fields, opened, read⟩ := bind_eq_ok_iff.mp read
  obtain ⟨podCidr, podCidrRead, read⟩ := bind_eq_ok_iff.mp read
  obtain ⟨providerId, providerIdRead, read⟩ := bind_eq_ok_iff.mp read
  obtain ⟨unschedulable, flagRead, read⟩ := bind_eq_ok_iff.mp read
  obtain ⟨taints, taintsRead, read⟩ := bind_eq_ok_iff.mp read
  cases read
  refine ⟨_, _, fields, opened, rfl, ?_⟩
  refine .cons (.optional text_keepsFlat podCidrRead)
    (.cons (.optional text_keepsFlat providerIdRead)
      (.cons (.defaulted boolean_keepsFlat (fun _ _ => boolean_eq_false_iff) ?_
        (eq_of_mem_writtenFlag unschedulable) flagRead)
        (.cons (.defaulted listOf_keepsFlat (fun _ _ => listOf_eq_nil_iff) ?_
          (eq_of_mem_writtenTaints taints) taintsRead) .nil)))
  · simp
  · simp

theorem Condition.normalises :
    Decoder.Normalises Condition.read Condition.toJson Condition.blanks := by
  refine Decoder.normalises_of_fields (by decide) (fun _ => rfl) (fun _ => rfl) ?_
  intro document condition read
  obtain ⟨fields, opened, read⟩ := bind_eq_ok_iff.mp read
  obtain ⟨kind, kindRead, read⟩ := bind_eq_ok_iff.mp read
  obtain ⟨status, statusRead, read⟩ := bind_eq_ok_iff.mp read
  obtain ⟨heartbeat, heartbeatRead, read⟩ := bind_eq_ok_iff.mp read
  obtain ⟨transition, transitionRead, read⟩ := bind_eq_ok_iff.mp read
  obtain ⟨reason, reasonRead, read⟩ := bind_eq_ok_iff.mp read
  obtain ⟨message, messageRead, read⟩ := bind_eq_ok_iff.mp read
  cases read
  refine ⟨_, _, fields, opened, rfl, ?_⟩
  exact .cons (.required text_keepsFlat kindRead) (.cons (.required text_keepsFlat statusRead)
    (.cons (.optional text_keepsFlat heartbeatRead)
      (.cons (.optional text_keepsFlat transitionRead)
        (.cons (.optional text_keepsFlat reasonRead)
          (.cons (.optional text_keepsFlat messageRead) .nil)))))

theorem Address.normalises : Decoder.Normalises Address.read Address.toJson Address.blanks := by
  refine Decoder.normalises_of_fields (by decide) Address.toJson_eq (fun _ => rfl) ?_
  intro document address read
  obtain ⟨fields, opened, read⟩ := bind_eq_ok_iff.mp read
  obtain ⟨kind, kindRead, read⟩ := bind_eq_ok_iff.mp read
  obtain ⟨text, textRead, read⟩ := bind_eq_ok_iff.mp read
  cases read
  refine ⟨_, _, fields, opened, rfl, ?_⟩
  exact .cons (.required text_keepsFlat kindRead) (.cons (.required text_keepsFlat textRead) .nil)

theorem Status.normalises : Decoder.Normalises Status.read Status.toJson Status.blanks := by
  refine Decoder.normalises_of_fields (by decide) (fun _ => rfl) (fun _ => rfl) ?_
  intro document status read
  obtain ⟨fields, opened, read⟩ := bind_eq_ok_iff.mp read
  obtain ⟨capacity, capacityRead, read⟩ := bind_eq_ok_iff.mp read
  obtain ⟨allocatable, allocatableRead, read⟩ := bind_eq_ok_iff.mp read
  obtain ⟨phase, phaseRead, read⟩ := bind_eq_ok_iff.mp read
  obtain ⟨conditions, conditionsRead, read⟩ := bind_eq_ok_iff.mp read
  obtain ⟨addresses, addressesRead, read⟩ := bind_eq_ok_iff.mp read
  cases read
  refine ⟨_, _, fields, opened, rfl, ?_⟩
  exact .cons (.optional textFields_keepsFlat capacityRead)
    (.cons (.optional textFields_keepsFlat allocatableRead)
      (.cons (.optional text_keepsFlat phaseRead)
        (.cons (.optional listOf_keepsFlat conditionsRead)
          (.cons (.optional listOf_keepsFlat addressesRead) .nil))))

/-! ## The formats -/

/-- A decoder and a writer agree about a format.  Whatever is written is read as it was,
in memory, as text, and with the fields in any order; so is what was itself read before, and
no two values are written alike.  Nothing that is written holds a `null` or a number, and
those fields are left out that were missing in what was read, `null` or at their default. -/
structure RoundTrips {α : Type} (decoder : Decoder α) (write : α → Json)
    (blanks : List (String × Option Json)) : Prop where
  memory : ∀ value, decoder (.ofJson (write value)) = .ok value
  text : ∀ value, readWith decoder (write value).render = .ok value
  reordered : decoder.Inverts write
  again : ∀ document value, decoder document = .ok value →
    decoder (.ofJson (write value)) = .ok value ∧
      readWith decoder (write value).render = .ok value
  apart : ∀ first second, (write first).render = (write second).render → first = second
  tidy : ∀ value, ∃ depth < depthLimit, Tidy depth (write value)
  normalises : decoder.Normalises write blanks

theorem roundTrips_of_inverts {α : Type} {decoder : Decoder α} {write : α → Json}
    {blanks : List (String × Option Json)} {depth : Nat} (inverts : decoder.Inverts write)
    (deep : depth < depthLimit) (tidy : ∀ value, Tidy depth (write value))
    (normalises : decoder.Normalises write blanks) : RoundTrips decoder write blanks := by
  have memory : ∀ value, decoder (.ofJson (write value)) = .ok value :=
    fun value => inverts _ value (tidy value).shows_ofJson
  have text : ∀ value, readWith decoder (write value).render = .ok value := by
    intro value
    obtain ⟨document, read, shows⟩ := (tidy value).exists_readDocument deep
    simp only [readWith, read, inverts document value shows]
    rfl
  refine ⟨memory, text, inverts, fun _ value _ => ⟨memory value, text value⟩, ?_,
    fun value => ⟨depth, deep, tidy value⟩, normalises⟩
  intro first second same
  have read := text first
  rw [same, text second] at read
  exact (Except.ok.inj read).symm

/-- Specs and statuses of machines and all that is nested in them round-trip. -/
theorem format_round_trips :
    RoundTrips Spec.read Spec.toJson Spec.blanks ∧
      RoundTrips Status.read Status.toJson Status.blanks ∧
        RoundTrips Taint.read Taint.toJson Taint.blanks ∧
          RoundTrips Condition.read Condition.toJson Condition.blanks ∧
            RoundTrips Address.read Address.toJson Address.blanks := by
  refine ⟨?_, ?_, ?_, ?_, ?_⟩
  · exact roundTrips_of_inverts Spec.inverts (by decide) Spec.tidy Spec.normalises
  · exact roundTrips_of_inverts Status.inverts (by decide) Status.tidy Status.normalises
  · exact roundTrips_of_inverts Taint.inverts (by decide) Taint.tidy Taint.normalises
  · exact roundTrips_of_inverts Condition.inverts (by decide) Condition.tidy Condition.normalises
  · exact roundTrips_of_inverts Address.inverts (by decide) Address.tidy Address.normalises

/-- Fields that are `null` or have their default are not written again, and a status without
conditions is not written like one with none of them. -/
theorem format_round_trips_with_blanks :
    let given := Json.object [("podCIDR", .text "10.0.0.0/24"), ("providerID", .null),
      ("taints", .list []), ("unschedulable", .boolean false)]
    let spec : Spec := { podCidr := some "10.0.0.0/24" }
    Spec.read (.ofJson given) = .ok spec ∧ Spec.read (.ofJson spec.toJson) = .ok spec ∧
      spec.toJson.field? "providerID" = none ∧
        ({} : Status).toJson.render ≠ ({ conditions := some [] } : Status).toJson.render := by
  intro given spec
  have read : Spec.read (.ofJson given) = .ok spec := by rfl
  obtain ⟨specs, statuses, -⟩ := format_round_trips
  have normal := specs.normalises.listed _ spec read ("providerID", some .null)
    (by simp [Spec.blanks])
  refine ⟨read, (specs.again _ spec read).1, normal.left.mpr (leftOut_some_iff.mpr rfl), ?_⟩
  intro same
  have equal := statuses.apart _ _ same
  cases equal

example : ({ podCidr := some "10.0.0.0/24" } : Spec).toJson.render =
    "\x7b\"podCIDR\":\"10.0.0.0/24\"\x7d" := by
  decide +kernel

end VirtualMachine

end Reconciler
