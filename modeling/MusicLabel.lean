import MusicLabel.Python.Decimal
import MusicLabel.Python.Text
import MusicLabel.Python.Float
import MusicLabel.Python.Value
import MusicLabel.Python.DecimalText
import MusicLabel.Python.Dict
import MusicLabel.Python.DecimalOrder
import MusicLabel.Python.DecimalValue
import MusicLabel.Python.FloatValue
import MusicLabel.Python.Date
import MusicLabel.Python.DateText
import MusicLabel.Python.Regex
import MusicLabel.Python.StableSort
import MusicLabel.Royalty.Manager
import MusicLabel.Royalty.Grouping
import MusicLabel.Royalty.Calculate
import MusicLabel.Royalty.Payout
import MusicLabel.Royalty.Advances
import MusicLabel.Royalty.Reconcile
import MusicLabel.Royalty.Report
import MusicLabel.Contracts.Manager
import MusicLabel.Contracts.Audit
import MusicLabel.Contracts.VerifySplits
import MusicLabel.Contracts.Expirations
import MusicLabel.Contracts.Summary
import MusicLabel.Contracts.Scan
import MusicLabel.Director.Escalation
import MusicLabel.Director.Routing
import MusicLabel.Director.Priority
import MusicLabel.Director.Telegram
import MusicLabel.Director.Session
import MusicLabel.Release.Manager
import MusicLabel.Release.Validate
import MusicLabel.Release.Calendar
import MusicLabel.Release.Session
import MusicLabel.Analytics.Agent
import MusicLabel.Analytics.Digest
import MusicLabel.Analytics.Trends
