import RollingHistory.Message.Rendering

/-!
The fixed wordings: what a capability is asked, and the frame around a summary.

A summary is asked for over a rendered conversation; two summaries are asked to be made one; and a
summary stands in front of a history inside a fixed frame.
-/

namespace RollingHistory

namespace Wording

/-- What stands between two summaries that are only put one after the other. -/
def divider : String := "\n\n---\n\n"

/-- Asks for a summary of a conversation already rendered. -/
def conversationRequest (conversation : String) : String :=
  "\n".intercalate [
    "请总结以下对话的关键信息。你的摘要应该：",
    "",
    "1. **保留重要事实和数据** - 包括具体的数字、日期、名称等",
    "2. **记录关键决策** - 用户做出的选择和偏好",
    "3. **提取核心话题** - 主要讨论的主题和问题",
    "4. **标注未解决的问题** - 任何悬而未决的事项",
    "",
    "请用简洁但信息完整的方式输出摘要，使用要点列表格式。",
    "",
    "<对话内容>",
    conversation,
    "</对话内容>",
    "",
    "请输出结构化摘要："]

/-- Asks for a summary of the messages. -/
def summaryRequest (messages : List Message) : String :=
  conversationRequest (Message.render messages)

/-- Asks for one summary in place of an older and a newer one. -/
def mergeRequest (older newer : String) : String :=
  "\n".intercalate [
    "请合并以下两段对话摘要，生成一个连贯统一的总结。",
    "",
    "要求：",
    "- 去除重复信息",
    "- 保持时间顺序",
    "- 突出重点和变化",
    "- 保持简洁（不超过原有长度）",
    "",
    "<早期摘要>",
    older,
    "</早期摘要>",
    "",
    "<新增内容摘要>",
    newer,
    "</新增内容摘要>",
    "",
    "请输出合并后的摘要："]

/-- The summary in its frame, to be read before the latest messages. -/
def frame (summary : String) : String :=
  "## 📝 对话历史摘要\n\n" ++ summary ++ "\n\n---\n*以下是最近的详细对话记录*\n"

end Wording

end RollingHistory
