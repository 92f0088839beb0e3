import SentryNav.Core.FloatFormat
import SentryNav.Core.Nearest
import Mathlib.Data.Rat.Floor
import Mathlib.Data.List.AList

/-!
# `IVox`: the voxel map of `point_lio`

The local map keeps points in voxels.  `grids_cache_` is a linked list of the voxels, the one used
last in front; `grids_map_` finds the list node of a voxel by its key.  If there are too many voxels
the last one of the list is dropped.  A query looks at the voxels around a point, takes at most so
many points from each, and chooses from these.

An iterator of the list is the address of a list node.  Addresses are not used again, so what
follows an iterator to a node that is gone ends with `none`.  The linear voxel type is modelled,
with which the package is built; `std::nth_element` is a parameter.
-/

namespace SentryNav.PointLio

open FloatFormat Nearest

/-- `pcl::PointXYZINormal`; `curvature` is the time of the point in the scan, in milliseconds. -/
structure PointType (K : Type*) where
  x : K
  y : K
  z : K
  intensity : K
  curvature : K
deriving DecidableEq

/-- `Eigen::Matrix<int, 3, 1>`. -/
structure KeyType where
  x : ℤ
  y : ℤ
  z : ℤ
deriving DecidableEq

instance : Add KeyType := ⟨fun a b => ⟨a.x + b.x, a.y + b.y, a.z + b.z⟩⟩

inductive NearbyType
  | center
  | nearby6
  | nearby18
  | nearby26
deriving DecidableEq

/-- `IVox::Options`. -/
structure Options (K : Type*) where
  resolution : K
  invResolution : K
  nearbyType : NearbyType
  capacity : ℕ

/-- `IVoxNode`: a voxel. -/
structure IVoxNode (K : Type*) where
  points : List (PointType K)

/-- A node of the list, by its address. -/
structure CacheNode (K : Type*) where
  address : ℕ
  key : KeyType
  node : IVoxNode K

/-- `IVox`; `allocated` counts the list nodes that have been made. -/
structure IVox (K : Type*) where
  options : Options K
  gridsMap : AList fun _ : KeyType => ℕ
  gridsCache : List (CacheNode K)
  nearbyGrids : List KeyType
  allocated : ℕ

/-- `GenerateNearbyGrids`. -/
def generateNearbyGrids : NearbyType → List KeyType
  | .center => [⟨0, 0, 0⟩]
  | .nearby6 =>
      [⟨0, 0, 0⟩, ⟨-1, 0, 0⟩, ⟨1, 0, 0⟩, ⟨0, 1, 0⟩, ⟨0, -1, 0⟩, ⟨0, 0, -1⟩, ⟨0, 0, 1⟩]
  | .nearby18 =>
      [⟨0, 0, 0⟩, ⟨-1, 0, 0⟩, ⟨1, 0, 0⟩, ⟨0, 1, 0⟩, ⟨0, -1, 0⟩, ⟨0, 0, -1⟩, ⟨0, 0, 1⟩, ⟨1, 1, 0⟩,
        ⟨-1, 1, 0⟩, ⟨1, -1, 0⟩, ⟨-1, -1, 0⟩, ⟨1, 0, 1⟩, ⟨-1, 0, 1⟩, ⟨1, 0, -1⟩, ⟨-1, 0, -1⟩,
        ⟨0, 1, 1⟩, ⟨0, -1, 1⟩, ⟨0, 1, -1⟩, ⟨0, -1, -1⟩]
  | .nearby26 =>
      [⟨0, 0, 0⟩, ⟨-1, 0, 0⟩, ⟨1, 0, 0⟩, ⟨0, 1, 0⟩, ⟨0, -1, 0⟩, ⟨0, 0, -1⟩, ⟨0, 0, 1⟩, ⟨1, 1, 0⟩,
        ⟨-1, 1, 0⟩, ⟨1, -1, 0⟩, ⟨-1, -1, 0⟩, ⟨1, 0, 1⟩, ⟨-1, 0, 1⟩, ⟨1, 0, -1⟩, ⟨-1, 0, -1⟩,
        ⟨0, 1, 1⟩, ⟨0, -1, 1⟩, ⟨0, 1, -1⟩, ⟨0, -1, -1⟩, ⟨1, 1, 1⟩, ⟨-1, 1, 1⟩, ⟨1, -1, 1⟩,
        ⟨1, 1, -1⟩, ⟨-1, -1, 1⟩, ⟨-1, 1, -1⟩, ⟨1, -1, -1⟩, ⟨-1, -1, -1⟩]

variable {K : Type*} [Field K] [LinearOrder K]

/-- `IVox::IVox`. -/
def IVox.make [FloorRing K] (options : Options K) : IVox K where
  options := { options with invResolution := float32 (float64 (1.0 / options.resolution)) }
  gridsMap := ∅
  gridsCache := []
  nearbyGrids := generateNearbyGrids options.nearbyType
  allocated := 0

/-- `IVoxNode::InsertPoint`. -/
def IVoxNode.insertPoint (node : IVoxNode K) (pt : PointType K) : IVoxNode K :=
  { node with points := node.points ++ [pt] }

/-- Whether a list node is the one at an address. -/
def CacheNode.at (it : ℕ) (n : CacheNode K) : Bool := n.address = it

/-- What an iterator refers to. -/
def IVox.deref (v : IVox K) (it : ℕ) : Option (CacheNode K) := v.gridsCache.find? (CacheNode.at it)

section AddPoints

variable [FloorRing K]

/-- `Pos2Grid`. -/
def Options.pos2Grid (o : Options K) (pt : PointType K) : KeyType :=
  ⟨⌊float32 (pt.x * o.invResolution)⌋, ⌊float32 (pt.y * o.invResolution)⌋,
    ⌊float32 (pt.z * o.invResolution)⌋⟩

/-- One pass of the loop of `AddPoints`; `none` if it were to follow a dangling iterator, or take
the last voxel of an empty list. -/
def IVox.addPoint (v : IVox K) (pt : PointType K) : Option (IVox K) :=
  let key := v.options.pos2Grid pt
  match v.gridsMap.lookup key with
  | none =>
      let it := v.allocated
      let gridsCache := ⟨it, key, IVoxNode.insertPoint ⟨[]⟩ pt⟩ :: v.gridsCache
      let gridsMap := v.gridsMap.insert key it
      let v := { v with gridsMap := gridsMap, gridsCache := gridsCache, allocated := it + 1 }
      if v.options.capacity ≤ gridsMap.keys.length then
        gridsCache.getLast?.map fun back =>
          { v with gridsMap := gridsMap.erase back.key, gridsCache := gridsCache.dropLast }
      else some v
  | some it =>
      (v.deref it).map fun n =>
        { v with
          gridsCache := { n with node := n.node.insertPoint pt }
            :: v.gridsCache.eraseP (CacheNode.at it)
          gridsMap := v.gridsMap.insert key it }

/-- `AddPoints`. -/
def IVox.addPoints (v : IVox K) (pointsToAdd : List (PointType K)) : Option (IVox K) :=
  pointsToAdd.foldlM IVox.addPoint v

end AddPoints

/-! ## Queries -/

/-- `distance2`. -/
def distance2 (pt1 pt2 : PointType K) : K :=
  (pt1.x - pt2.x) ^ 2 + (pt1.y - pt2.y) ^ 2 + (pt1.z - pt2.z) ^ 2

/-- `IVoxNode::DistPoint`: a place in a voxel, with its distance. -/
structure DistPoint (K : Type*) where
  dist : K
  node : ℕ
  idx : ℕ
deriving DecidableEq

/-- `DistPoint::Get`. -/
def DistPoint.get (v : IVox K) (d : DistPoint K) : Option (PointType K) :=
  (v.deref d.node).bind fun n => n.node.points[d.idx]?

/-- The places of a voxel within a range. -/
def CacheNode.inRange (n : CacheNode K) (point : PointType K) (maxRange : K) :
    List (DistPoint K) :=
  (n.node.points.zipIdx.map fun pt => ⟨distance2 pt.1 point, n.address, pt.2⟩).filter fun d =>
    d.dist < maxRange * maxRange

/-- `IVoxNode::KNNPointByCondition`: the places that it adds to the candidates. -/
def CacheNode.knnPointByCondition (nth : NthElement (DistPoint.dist (K := K))) (n : CacheNode K)
    (disPoints : List (DistPoint K)) (point : PointType K) (maxNum : ℕ) (maxRange : K) :
    List (DistPoint K) :=
  disPoints ++ cut nth maxNum (n.inRange point maxRange)

/-- `GetClosestPoint`: the points, or `none` if there are none and it returns false; `none` outside
if it were to follow a dangling iterator. -/
def IVox.getClosestPoint [FloorRing K] (v : IVox K) (nth : NthElement (DistPoint.dist (K := K)))
    (pt : PointType K) (maxNum : ℕ) (maxRange : K) : Option (Option (List (PointType K))) := do
  let key := v.options.pos2Grid pt
  let candidates ← v.nearbyGrids.foldlM (fun candidates delta =>
    match v.gridsMap.lookup (key + delta) with
    | none => some candidates
    | some it => (v.deref it).map fun n =>
        n.knnPointByCondition nth candidates pt maxNum maxRange) []
  if candidates = [] then return none
  let closestPt ← (nth.run 0 (cut nth maxNum candidates)).mapM (DistPoint.get v)
  return some closestPt

end SentryNav.PointLio
