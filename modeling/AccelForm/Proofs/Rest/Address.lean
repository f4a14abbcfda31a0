import AccelForm.Rest.Client
import AccelForm.Proofs.Url.Percent
/-
  Addresses of stored passwords

  A stored password is addressed by its realm and its name with a colon
  between them, and a colon is spelled as it is. So an address tells realm and
  name apart only up to the choice of the colon between them: two pairs have
  one address exactly if they are the same, or one of the realms goes on, after
  a colon, with what the other name begins with. Realms without a colon keep
  their passwords apart (`passwordAddress_eq_iff`).
-/

namespace AccelForm.Rest

/-- Whether a pair of a realm and a name is another one with its border moved to a later colon. -/
def Regroups (realm name realm' name' : String) : Prop :=
  ∃ middle, realm' = realm ++ ":" ++ middle ∧ name = middle ++ ":" ++ name'

theorem Regroups.mem_realm {realm name realm' name' : String}
    (h : Regroups realm name realm' name') : ':' ∈ realm'.toList := by
  obtain ⟨middle, rfl, _⟩ := h
  simp

theorem Regroups.passwordEntity_eq {realm name realm' name' : String}
    (h : Regroups realm name realm' name') :
    passwordEntity realm name = passwordEntity realm' name' := by
  obtain ⟨middle, rfl, rfl⟩ := h
  simp only [passwordEntity, String.append_assoc]

/-- Where a colon ends a prefix on both sides, the longer prefix goes on with it. -/
theorem exists_regroups {realm name realm' name' : String} {more : List Char}
    (hrealm : realm'.toList = realm.toList ++ more)
    (hname : ':' :: name.toList = more ++ ':' :: name'.toList) :
    (realm = realm' ∧ name = name') ∨ Regroups realm name realm' name' := by
  cases more with
  | nil =>
    rw [List.append_nil] at hrealm
    exact .inl ⟨String.toList_inj.1 hrealm.symm, String.toList_inj.1 (List.cons.inj hname).2⟩
  | cons c middle =>
    rw [List.cons_append, List.cons.injEq] at hname
    obtain ⟨rfl, hname⟩ := hname
    refine .inr ⟨String.ofList middle, String.toList_inj.1 ?_, String.toList_inj.1 ?_⟩
    · simp [hrealm]
    · simp [hname]

theorem passwordEntity_eq_iff {realm name realm' name' : String} :
    passwordEntity realm name = passwordEntity realm' name' ↔
      (realm = realm' ∧ name = name') ∨ Regroups realm name realm' name' ∨
        Regroups realm' name' realm name := by
  constructor
  · intro h
    have hlists : realm.toList ++ ':' :: name.toList = realm'.toList ++ ':' :: name'.toList := by
      have hcolon := congrArg String.toList h
      simp only [passwordEntity, String.toList_append] at hcolon
      simpa using List.append_cancel_right hcolon
    rcases List.append_eq_append_iff.1 hlists with ⟨more, hrealm, hname⟩ | ⟨more, hrealm, hname⟩
    · exact (exists_regroups hrealm hname).imp_right .inl
    · rcases exists_regroups hrealm hname with ⟨rfl, rfl⟩ | hmoved
      · exact .inl ⟨rfl, rfl⟩
      · exact .inr (.inr hmoved)
  · rintro (⟨rfl, rfl⟩ | h | h)
    · rfl
    · exact h.passwordEntity_eq
    · exact h.passwordEntity_eq.symm

/-- The address of a password tells what it is called among all of them. -/
theorem passwordEntity_eq_of_address {base app realm name realm' name' : String}
    (h : passwordAddress base app realm name = passwordAddress base app realm' name') :
    passwordEntity realm name = passwordEntity realm' name' := by
  unfold passwordAddress namespacedAddress at h
  rw [String.append_right_inj, String.append_right_inj, Url.encodeSegment_inj] at h
  exact h

/-- Two stored passwords have one address exactly if they are called alike, and then each call that
shows or deletes the one shows or deletes the other. They are called alike exactly if they have the
same realm and the same name, or one of the realms holds the colon that ends the other one; so
passwords of realms without a colon have addresses of their own. -/
theorem passwordAddress_eq_iff (base app realm name realm' name' : String) :
    (passwordAddress base app realm name = passwordAddress base app realm' name' ↔
      (realm = realm' ∧ name = name') ∨ Regroups realm name realm' name' ∨
        Regroups realm' name' realm name) ∧
    (passwordAddress base app realm name = passwordAddress base app realm' name' → ∀ link,
      Client.passwords link app realm name = Client.passwords link app realm' name' ∧
      Client.deletePassword link app realm name = Client.deletePassword link app realm' name') ∧
    (':' ∉ realm.toList → ':' ∉ realm'.toList →
      passwordAddress base app realm name = passwordAddress base app realm' name' →
      realm = realm' ∧ name = name') := by
  have haddress : passwordAddress base app realm name = passwordAddress base app realm' name' ↔
      passwordEntity realm name = passwordEntity realm' name' := by
    refine ⟨passwordEntity_eq_of_address, fun h => ?_⟩
    rw [passwordAddress, h, ← passwordAddress]
  rw [haddress]
  refine ⟨passwordEntity_eq_iff, fun h link => ?_, fun hrealm hrealm' h => ?_⟩
  · -- the calls speak of realm and name only through what the password is called
    have hunknown : Client.unknownPassword realm name = Client.unknownPassword realm' name' := by
      funext f
      unfold Client.unknownPassword
      rw [h]
    simp only [Client.passwords, Client.deletePassword, passwordAddress, h, hunknown, and_self]
  · rcases passwordEntity_eq_iff.1 h with hsame | hmoved | hmoved
    · exact hsame
    · exact absurd hmoved.mem_realm hrealm'
    · exact absurd hmoved.mem_realm hrealm

/-- Two keys of one realm have addresses of their own. -/
theorem passwordAddress_relay_ne :
    passwordAddress "https://h:8089" "Splunk_SA_CIM" "cam_queue" "relay" ≠
      passwordAddress "https://h:8089" "Splunk_SA_CIM" "cam_queue" "a:relay" := fun h =>
  absurd ((passwordAddress_eq_iff _ _ _ _ _ _).2.2 (by decide) (by decide) h).2 (by decide)

/-- A colon in a realm lets two different passwords have one address. -/
theorem passwordAddress_shared :
    passwordAddress "https://h:8089" "Splunk_SA_CIM" "a:b" "c" =
      passwordAddress "https://h:8089" "Splunk_SA_CIM" "a" "b:c" ∧
    ¬ ("a:b" = "a" ∧ "c" = "b:c") := by
  decide

end AccelForm.Rest
