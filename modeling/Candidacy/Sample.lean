import Candidacy.Company

/-!
# Sample companies

The companies a candidate is screened against when no others are named.
-/

namespace Candidacy.Sample

def every (names : List String) : Requirement := .composite .all (names.map .item)

def oneOf (names : List String) : Requirement := .composite .any (names.map .item)

/-- The sample companies, A to K. -/
def companies : List Company := [
  ⟨"Company A", some (.composite .all [
    oneOf ["apartment", "house"], .item "property insurance"])⟩,
  ⟨"Company B", some (.composite .all [
    oneOf ["5 door car", "4 door car"], .item "driving license", .item "car insurance"])⟩,
  ⟨"Company C", some (every ["social security number", "work permit"])⟩,
  ⟨"Company D", some (oneOf ["apartment", "flat", "house"])⟩,
  ⟨"Company E", some (.composite .all [
    .item "driving license",
    oneOf ["2 door car", "3 door car", "4 door car", "5 door car"]])⟩,
  ⟨"Company F", some (.composite .all [
    oneOf ["scooter", "bike", "motorcycle"], .item "driving license",
    .item "motorcycle insurance"])⟩,
  ⟨"Company G", some (every ["massage qualification certificate", "liability insurance"])⟩,
  ⟨"Company H", some (oneOf ["storage place", "garage"])⟩,
  ⟨"Company J", none⟩,
  ⟨"Company K", some (.item "paypal account")⟩]

end Candidacy.Sample
