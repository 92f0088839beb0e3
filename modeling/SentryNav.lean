import SentryNav.SerialComm.DecodersAgree
import SentryNav.SerialComm.LinkRecovery
import SentryNav.SerialComm.CrcDetection
import SentryNav.FakeVelTransform.AngleSet
import SentryNav.Registration.OdinInterface
import SentryNav.Registration.LoamInterface
import SentryNav.Registration.RobotBaseOdometry
import SentryNav.PursuitController.SpeedEnvelope
import SentryNav.PursuitController.PlanPruning
import SentryNav.PursuitController.AcceptedParameters
import SentryNav.PursuitController.CurvatureSlowdown
import SentryNav.PursuitController.RotateInPlace
import SentryNav.PursuitController.AntiWindup
import SentryNav.PursuitController.ArcLengthLookup
import SentryNav.TerrainAnalysis.Bookkeeping
import SentryNav.TerrainAnalysis.GroundElevation
import SentryNav.TerrainAnalysis.NoDataObstacles
import SentryNav.Nav2Plugins.Marking
import SentryNav.Nav2Plugins.BackUpRuns
import SentryNav.Nav2Plugins.DirectionGuarantees
import SentryNav.TeleopTwistJoy.DeadMan
import SentryNav.TerrainAnalysisExt.ConnectedTerrain
import SentryNav.PointLio.NearestNeighbours
import SentryNav.LivoxDriver.Handoff
import SentryNav.LivoxDriver.FrameConservation
import SentryNav.LivoxDriver.CacheIndex
import SentryNav.PointLio.PredictedTime
import SentryNav.PointLio.ImuInit
import SentryNav.TerrainAnalysis.MapRuns
import SentryNav.TerrainAnalysisExt.Pipeline
import SentryNav.LivoxDriver.LidarSetup
import SentryNav.PointcloudToLaserscan.CloudCallback
import SentryNav.Core.Batches
import SentryNav.LivoxDriver.Lddc
import SentryNav.PointLio.ScanBuffer
