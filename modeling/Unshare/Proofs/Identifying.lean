import Unshare.Proofs.Warnings

namespace Unshare

-- Where a list is cut is settled by how many separators stand before the cut.
theorem Text.append_cons_inj_of_count {α : Type} [DecidableEq α] {sep : α} {a a' b b' : List α}
    (hcount : a.count sep = a'.count sep) (h : a ++ sep :: b = a' ++ sep :: b') :
    a = a' ∧ b = b' := by
  induction a generalizing a' with
  | nil =>
    cases a' with
    | nil => exact ⟨rfl, (List.cons.inj h).2⟩
    | cons c' rest' =>
      -- the other cut would have a separator before it
      obtain ⟨rfl, -⟩ := List.cons.inj h
      simp at hcount
  | cons c rest ih =>
    cases a' with
    | nil =>
      obtain ⟨rfl, -⟩ := List.cons.inj h
      simp at hcount
    | cons c' rest' =>
      obtain ⟨rfl, hrest⟩ := List.cons.inj h
      rw [List.count_cons, List.count_cons, Nat.add_right_cancel_iff] at hcount
      obtain ⟨rfl, rfl⟩ := ih hcount hrest
      exact ⟨rfl, rfl⟩

namespace GrantId

-- The drives hold equally many colons, and so do the items.
def SameColons (a b : GrantId) : Prop :=
  a.drive.toList.count ':' = b.drive.toList.count ':' ∧
    a.item.toList.count ':' = b.item.toList.count ':'

instance (a b : GrantId) : Decidable (a.SameColons b) :=
  inferInstanceAs (Decidable (_ ∧ _))

theorem toList_composite (id : GrantId) : id.composite.toList =
    id.drive.toList ++ ':' :: (id.item.toList ++ ':' :: id.permission.toList) := by
  simp [composite, String.toList_append]

theorem eq_iff_sameColons {a b : GrantId} (h : a.composite = b.composite) :
    a = b ↔ a.SameColons b := by
  constructor
  · rintro rfl
    exact ⟨rfl, rfl⟩
  · rintro ⟨hdrives, hitems⟩
    have hjoined := congrArg String.toList h
    rw [toList_composite, toList_composite] at hjoined
    obtain ⟨hdrive, hrest⟩ := Text.append_cons_inj_of_count hdrives hjoined
    obtain ⟨hitem, hpermission⟩ := Text.append_cons_inj_of_count hitems hrest
    exact eq_of_parts (String.toList_inj.mp hdrive) (String.toList_inj.mp hitem)
      (String.toList_inj.mp hpermission)

end GrantId

namespace Revocation

open Services (Event)

-- With these calls one grant was removed, this one, and the audit trail was told of it under this
-- name and under no other.
structure Audits (events : List Event) (id : GrantId) (name : String) : Prop where
  removed : ∀ other, .remove other (.ok ()) ∈ events ↔ other = id
  audited : ∀ other, (∃ told answer, .audit told answer ∈ events ∧ told.entityId = other) ↔
    other = name

theorem audits_of_seen {events : List Event} {id : GrantId} {g : Grant}
    {result : Except Failure Revoked} (h : (Course.removed id g).Seen events result) :
    Audits events id id.composite := by
  obtain ⟨cached, told, audited, done, rfl, hname, -⟩ := h
  constructor
  · intro other
    simp
  · intro other
    simp [hname, eq_comm]

section

variable {σ : Type} {s : Services (StateM σ)} {defaultSource correlation : String}
  {r : RevokeRequest} {actor : Option Actor} {x : σ}

theorem audits_of_shows {events : List Event} {kept : Attempt} {done : Revoked}
    (h : Shows s defaultSource correlation r actor x events kept (.ok done)) :
    ∃ id, Audits events id id.composite := by
  obtain ⟨course, -, hseen, -⟩ := h.exists_course
  cases course with
  | removed id g => exact ⟨id, audits_of_seen hseen⟩
  | _ => cases hseen.2

theorem exists_audits_of_removed {id : GrantId} {g : Grant}
    (h : (Course.removed id g).Taken s r x) :
    ∃ events kept done, Shows s defaultSource correlation r actor x events kept (.ok done) ∧
      Audits events id id.composite := by
  obtain ⟨events, kept, result, hshows, hseen, -⟩ :=
    (fits_of_taken h : Fits s defaultSource correlation r actor x _)
  have haudits := audits_of_seen hseen
  obtain ⟨cached, told, audited, done, -, -, rfl⟩ := hseen
  exact ⟨events, kept, done, hshows, haudits⟩

end

-- Two grants with one name are the same one exactly if their drives and their items hold equally
-- many colons, as they do where there are none. So it is with two grants that were removed, by
-- whatever services, and that the audit trail has under one name, which is their parts joined by
-- colons.
theorem audited_name_identifies :
    (∀ a b : GrantId, a.composite = b.composite → (a = b ↔ a.SameColons b)) ∧
    ∀ {σ τ : Type} (s : Services (StateM σ)) (t : Services (StateM τ))
      (defaultSource defaultSource' correlation correlation' : String) (r r' : RevokeRequest)
      (actor actor' : Option Actor) (x : σ) (y : τ) (events events' : List Event)
      (kept kept' : Attempt) (done done' : Revoked),
      Shows s defaultSource correlation r actor x events kept (.ok done) →
      Shows t defaultSource' correlation' r' actor' y events' kept' (.ok done') →
      ∃ id id' name name', Audits events id name ∧ Audits events' id' name' ∧
        name = id.drive ++ ":" ++ id.item ++ ":" ++ id.permission ∧
        name' = id'.drive ++ ":" ++ id'.item ++ ":" ++ id'.permission ∧
        (name = name' → (id = id' ↔ id.SameColons id')) := by
  constructor
  · intro a b h
    exact GrantId.eq_iff_sameColons h
  · intro σ τ s t _ _ _ _ r r' actor actor' x y events events' kept kept' done done' hshows hshows'
    obtain ⟨id, haudits⟩ := audits_of_shows hshows
    obtain ⟨id', haudits'⟩ := audits_of_shows hshows'
    exact ⟨id, id', id.composite, id'.composite, haudits, haudits', rfl, rfl,
      GrantId.eq_iff_sameColons⟩

-- Two grants that differ in which part a colon belongs to, and the requests that revoke them.
def colonInDrive : Grant :=
  ⟨⟨"d:e", "i", "w", .refl false, .refl false, .refl false⟩, ["write"], none, none⟩

def colonInItem : Grant :=
  ⟨⟨"d", "e:i", "w", .refl false, .refl false, .refl false⟩, ["write"], none, none⟩

def bothColons : Memory :=
  .ofGrants [colonInDrive, colonInItem]

def driveRequest : RevokeRequest := ⟨some "d:e", some "i", some "w", none⟩

def itemRequest : RevokeRequest := ⟨some " d", some "e:i", some "w", none⟩

theorem taken_driveRequest : (Course.removed colonInDrive.id colonInDrive).Taken Memory.services
    driveRequest bothColons :=
  ⟨⟨rfl, rfl, rfl⟩, _, _, rfl, rfl, rfl⟩

theorem taken_itemRequest : (Course.removed colonInItem.id colonInItem).Taken Memory.services
    itemRequest bothColons :=
  ⟨⟨rfl, rfl, rfl⟩, _, _, rfl, rfl, rfl⟩

theorem audited_name_identifies_colons :
    (colonInDrive.id.composite = colonInItem.id.composite ∧
      (colonInDrive.id = colonInItem.id ↔ colonInDrive.id.SameColons colonInItem.id)) ∧
    ∃ events events' kept kept' done done',
      Shows Memory.services "source" "c" driveRequest none bothColons events kept (.ok done) ∧
      Shows Memory.services "source" "k" itemRequest none bothColons events' kept' (.ok done') ∧
      ∃ id id' name name', Audits events id name ∧ Audits events' id' name' ∧
        name = id.drive ++ ":" ++ id.item ++ ":" ++ id.permission ∧
        name' = id'.drive ++ ":" ++ id'.item ++ ":" ++ id'.permission ∧
        (name = name' → (id = id' ↔ id.SameColons id')) := by
  obtain ⟨hnames, hattempts⟩ := audited_name_identifies
  obtain ⟨_, _, _, hshows, -⟩ := exists_audits_of_removed taken_driveRequest
  obtain ⟨_, _, _, hshows', -⟩ := exists_audits_of_removed taken_itemRequest
  exact ⟨⟨rfl, hnames _ _ rfl⟩, _, _, _, _, _, _, hshows, hshows',
    hattempts _ _ _ _ _ _ _ _ _ _ _ _ _ _ _ _ _ _ hshows hshows'⟩

-- Both are removed, and the audit trail has them under one name.
theorem audited_name_of_two_grants :
    colonInDrive.id ≠ colonInItem.id ∧
      ∃ events events' kept kept' done done',
        Shows Memory.services "source" "c" driveRequest none bothColons events kept (.ok done) ∧
        Shows Memory.services "source" "k" itemRequest none bothColons events' kept' (.ok done') ∧
        Audits events colonInDrive.id "d:e:i:w" ∧ Audits events' colonInItem.id "d:e:i:w" := by
  obtain ⟨_, _, _, hshows, haudits⟩ := exists_audits_of_removed taken_driveRequest
  obtain ⟨_, _, _, hshows', haudits'⟩ := exists_audits_of_removed taken_itemRequest
  exact ⟨by decide, _, _, _, _, _, _, hshows, hshows', haudits, haudits'⟩

end Revocation

end Unshare
